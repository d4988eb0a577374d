import CubeNano.Gds.LedgerAdmissions

/-!
# Terminal times

`terminal_at_us` is `NULL` in a new command, and every statement that ends a command
sets it to the `MAX` of the column and the clock.  The scalar `MAX` of SQLite is `NULL`
when an argument is, so the column stays `NULL` for good.

## Main definitions

* `EndedAt` — the instant of the step that ended a command
* `TerminalTimes` — every command that has ended carries that instant

## Main statements

* `terminalAtUs_eq_none` — no reachable ledger has a terminal time
* `terminalTimes_iff` — the times are right exactly while no command has ended
* `not_terminalTimes_of_acked` — an acknowledged command
-/

namespace CubeNano

/-- The command under a key ended in the step of `inputs` at instant `t`. -/
def EndedAt (cfg : LedgerConfig) (start : Ledger) (inputs : List (ℕ × LedgerOp))
    (key : RequestKey) (t : ℕ) : Prop :=
  ∃ earlier op later, inputs = earlier ++ (t, op) :: later ∧
    (∃ c, ((gdsMachine cfg).exec start earlier).commands.find? key = some c ∧
      c.commandState.nonterminal = true) ∧
    ∃ c, ((gdsMachine cfg).exec start (earlier ++ [(t, op)])).commands.find? key = some c ∧
      c.commandState.nonterminal = false

/-- Every command that has ended has a terminal time, not before its creation: the
instant of the step that ended it. -/
def TerminalTimes (cfg : LedgerConfig) (start : Ledger) (inputs : List (ℕ × LedgerOp)) : Prop :=
  ∀ key c, ((gdsMachine cfg).exec start inputs).commands.find? key = some c →
    c.commandState.nonterminal = false →
      ∃ t, c.terminalAtUs = some t ∧ c.createdAtUs ≤ t ∧ EndedAt cfg start inputs key t

/-- `MAX` keeps a `NULL` column `NULL`, so no step gives a command a terminal time. -/
theorem RequestStep.terminalAtUs_eq_none {cfg : LedgerConfig} {l : Ledger} {now : ℕ}
    {op : LedgerOp} {result : Raises LedgerResult} {key : RequestKey} {r r' : Request}
    (step : RequestStep cfg l now op result key r r')
    (before : r.command.terminalAtUs = none) : r'.command.terminalAtUs = none := by
  have closed (state : CommandState) : (r.command.closedAt state now).terminalAtUs = none := by
    show sqlMax r.command.terminalAtUs now = none
    rw [before]
    rfl
  cases step with
  | fails nonterminal terms failed attempts owner => exact closed .failed
  | acked nonterminal terms acknowledged attempts owner => exact closed .acked
  | _ => exact before

/-- No command of a reachable ledger has a terminal time. -/
theorem terminalAtUs_eq_none (cfg : LedgerConfig) {start : Ledger} (unused : start.Unused)
    (inputs : List (ℕ × LedgerOp)) {key : RequestKey} {c : CommandRow}
    (stored : ((gdsMachine cfg).exec start inputs).commands.find? key = some c) :
    c.terminalAtUs = none := by
  have none_at : ∀ k r, ((gdsMachine cfg).exec start inputs).request? k = some r →
      r.command.terminalAtUs = none := by
    refine (admissionEntries cfg).invariant (fun _ r => r.command.terminalAtUs = none)
      (fun _ _ => True) (fun _ _ _ r _ _ ⟨_, _, admitted⟩ => admitted.unended)
      (fun _ _ _ _ _ _ _ _ step before => RequestStep.terminalAtUs_eq_none step before)
      unused.sound (fun k r here => ?_) inputs (Machine.allSteps_of_forall (fun _ _ => trivial) _ _)
    have stored := (Ledger.request?_eq_some_iff.mp here).1
    rw [unused.commands] at stored
    cases stored
  have sound := (admissionEntries cfg).sound_exec unused.sound inputs
  obtain ⟨o, here⟩ := Ledger.Sound.request?_of_command sound stored
  exact none_at key ⟨c, o⟩ here

/-- **Terminal times are never set.**  In the ledger any transactions reach, the
terminal times are right if and only if no command has ended. -/
theorem terminalTimes_iff (cfg : LedgerConfig) {start : Ledger} (unused : start.Unused)
    (inputs : List (ℕ × LedgerOp)) :
    TerminalTimes cfg start inputs ↔
      ∀ key c, ((gdsMachine cfg).exec start inputs).commands.find? key = some c →
        c.commandState.nonterminal = true := by
  constructor
  · intro times key c stored
    by_contra ended
    obtain ⟨t, at_, -, -⟩ := times key c stored (Bool.not_eq_true _ ▸ ended)
    rw [terminalAtUs_eq_none cfg unused inputs stored] at at_
    cases at_
  · intro alive key c stored ended
    rw [alive key c stored] at ended
    cases ended

/-- A request that is acknowledged two seconds after its admission. -/
def ackedInputs : List (ℕ × LedgerOp) :=
  openingInputs ++
    [(1000000, .claim none none "dispatcher"),
      (1100000, .prepareAttempt (sceneLease "dispatcher" 1000000 0) sceneProfile none),
      (1200000, .markSent (sceneLease "dispatcher" 1000000 0) (sceneAttempt 1 1100000)),
      (2000000, .ingestAck sceneKey true none (some ⟨1, 1, 1⟩))]

/-- The theorem applies to the migrated database. -/
theorem terminalTimes_iff_acked :
    TerminalTimes ⟨defaultOutboxPolicy, 16⟩ .migrated ackedInputs ↔
      ∀ key c, ((gdsMachine ⟨defaultOutboxPolicy, 16⟩).exec .migrated ackedInputs).commands.find?
        key = some c → c.commandState.nonterminal = true :=
  terminalTimes_iff _ Ledger.unused_migrated _

/-- The acknowledged request has ended without a terminal time. -/
theorem not_terminalTimes_of_acked :
    ¬ ∀ (cfg : LedgerConfig) (start : Ledger), start.Unused → ∀ inputs,
      TerminalTimes cfg start inputs := by
  intro always
  have ended : (((gdsMachine ⟨defaultOutboxPolicy, 16⟩).exec .migrated
      ackedInputs).commands.find? sceneKey).any (fun c =>
        c.commandState = .acked && c.terminalAtUs = none) = true := by
    decide +kernel
  obtain ⟨c, stored, found⟩ := (Option.any_eq_true _ _).mp ended
  obtain ⟨acked, missing⟩ := Bool.and_eq_true_iff.mp found
  obtain ⟨t, at_, -, -⟩ := always _ _ Ledger.unused_migrated _ sceneKey c stored
    (by rw [of_decide_eq_true acked]; rfl)
  rw [of_decide_eq_true missing] at at_
  cases at_

end CubeNano

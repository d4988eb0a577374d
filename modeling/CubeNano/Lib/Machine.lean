import Mathlib.Data.List.Basic
import Mathlib.Data.List.Induction

/-!
# Runs of deterministic machines

A `Machine σ α β` moves a state on every input and yields an output.  `exec` is
the state a list of inputs leads to and `log` pairs every input with its output,
so a property of a whole run is a property of `exec` and `log` together.

`run_invariant` is the induction rule every run-level result goes through: an
invariant that may mention the log, established at the empty log and preserved
by one step, holds after every input list.
-/

universe u v w

/-- A deterministic machine with inputs `α` and outputs `β`. -/
structure Machine (σ : Type u) (α : Type v) (β : Type w) where
  /-- One step: the next state and the output. -/
  step : σ → α → σ × β

namespace Machine

variable {σ : Type u} {α : Type v} {β : Type w} (m : Machine σ α β)

/-- The state after a list of inputs. -/
def exec : σ → List α → σ
  | s, [] => s
  | s, a :: rest => exec (m.step s a).1 rest

/-- The inputs of a run, each with its output. -/
def log : σ → List α → List (α × β)
  | _, [] => []
  | s, a :: rest => (a, (m.step s a).2) :: log (m.step s a).1 rest

@[simp] theorem exec_nil (s : σ) : m.exec s [] = s := rfl

@[simp] theorem log_nil (s : σ) : m.log s [] = [] := rfl

@[simp] theorem exec_cons (s : σ) (a : α) (rest : List α) :
    m.exec s (a :: rest) = m.exec (m.step s a).1 rest := rfl

@[simp] theorem log_cons (s : σ) (a : α) (rest : List α) :
    m.log s (a :: rest) = (a, (m.step s a).2) :: m.log (m.step s a).1 rest := rfl

theorem exec_append (s : σ) (first second : List α) :
    m.exec s (first ++ second) = m.exec (m.exec s first) second := by
  induction first generalizing s with
  | nil => rfl
  | cons a rest ih => exact ih (m.step s a).1

theorem log_append (s : σ) (first second : List α) :
    m.log s (first ++ second) = m.log s first ++ m.log (m.exec s first) second := by
  induction first generalizing s with
  | nil => rfl
  | cons a rest ih => simpa using ih (m.step s a).1

theorem exec_concat (s : σ) (inputs : List α) (a : α) :
    m.exec s (inputs ++ [a]) = (m.step (m.exec s inputs) a).1 := by
  rw [exec_append]
  rfl

theorem log_concat (s : σ) (inputs : List α) (a : α) :
    m.log s (inputs ++ [a]) = m.log s inputs ++ [(a, (m.step (m.exec s inputs) a).2)] := by
  rw [log_append]
  rfl

@[simp] theorem log_map_fst (s : σ) (inputs : List α) :
    (m.log s inputs).map Prod.fst = inputs := by
  induction inputs generalizing s with
  | nil => rfl
  | cons a rest ih => simp [ih]

/-- **The run rule.**  An invariant on the state and the log so far that one
step preserves holds at the end of every run. -/
theorem run_invariant {s : σ} (Inv : σ → List (α × β) → Prop) (start : Inv s [])
    (preserved : ∀ t past a, Inv t past →
      Inv (m.step t a).1 (past ++ [(a, (m.step t a).2)]))
    (inputs : List α) : Inv (m.exec s inputs) (m.log s inputs) := by
  induction inputs using List.reverseRecOn with
  | nil => exact start
  | append_singleton inputs a ih =>
      rw [exec_concat, log_concat]
      exact preserved _ _ a ih

/-- The run rule for an invariant of the state alone. -/
theorem exec_invariant {s : σ} (Inv : σ → Prop) (start : Inv s)
    (preserved : ∀ t a, Inv t → Inv (m.step t a).1) (inputs : List α) :
    Inv (m.exec s inputs) :=
  m.run_invariant (fun t _ => Inv t) start (fun t _ a h => preserved t a h) inputs

/-- The run rule when every input satisfies a condition. -/
theorem exec_invariant_of_forall {s : σ} (Inv : σ → Prop) (Allowed : α → Prop) (start : Inv s)
    (preserved : ∀ t a, Allowed a → Inv t → Inv (m.step t a).1) (inputs : List α)
    (allowed : ∀ a ∈ inputs, Allowed a) : Inv (m.exec s inputs) := by
  induction inputs generalizing s with
  | nil => exact start
  | cons a rest ih =>
      exact ih (preserved s a (allowed a (by simp)) start)
        (fun b mem => allowed b (List.mem_cons_of_mem _ mem))

/-- Every step of a run meets a condition on the state before it and the input. -/
def AllSteps (Allowed : σ → α → Prop) : σ → List α → Prop
  | _, [] => True
  | s, a :: rest => Allowed s a ∧ AllSteps Allowed (m.step s a).1 rest

/-- Whether every step of a run meets a decidable condition. -/
instance decidableAllSteps (Allowed : σ → α → Prop) [∀ s a, Decidable (Allowed s a)] :
    ∀ s inputs, Decidable (m.AllSteps Allowed s inputs)
  | _, [] => isTrue trivial
  | s, a :: rest =>
      have := decidableAllSteps Allowed (m.step s a).1 rest
      inferInstanceAs (Decidable (Allowed s a ∧ m.AllSteps Allowed (m.step s a).1 rest))

/-- The run rule when every step meets a condition on the state before it. -/
theorem exec_invariant_of_allSteps {s : σ} (Inv : σ → Prop) {Allowed : σ → α → Prop}
    (start : Inv s) (preserved : ∀ t a, Allowed t a → Inv t → Inv (m.step t a).1)
    (inputs : List α) (allowed : m.AllSteps Allowed s inputs) : Inv (m.exec s inputs) := by
  induction inputs generalizing s with
  | nil => exact start
  | cons a rest ih => exact ih (preserved s a allowed.1 start) allowed.2

theorem allSteps_append (Allowed : σ → α → Prop) (s : σ) (first second : List α) :
    m.AllSteps Allowed s (first ++ second) ↔
      m.AllSteps Allowed s first ∧ m.AllSteps Allowed (m.exec s first) second := by
  induction first generalizing s with
  | nil => exact ⟨fun all => ⟨trivial, all⟩, fun both => both.2⟩
  | cons a rest ih =>
      show Allowed s a ∧ m.AllSteps Allowed (m.step s a).1 (rest ++ second) ↔ _
      rw [ih]
      exact and_assoc.symm

/-- Two conditions on the steps. -/
theorem allSteps_and {Allowed Allowed' : σ → α → Prop} {s : σ} {inputs : List α}
    (first : m.AllSteps Allowed s inputs) (second : m.AllSteps Allowed' s inputs) :
    m.AllSteps (fun t a => Allowed t a ∧ Allowed' t a) s inputs := by
  induction inputs generalizing s with
  | nil => trivial
  | cons a rest ih => exact ⟨⟨first.1, second.1⟩, ih first.2 second.2⟩

/-- A condition on the inputs alone, together with one on the steps. -/
theorem allSteps_and_mem {P : α → Prop} {Allowed : σ → α → Prop} {s : σ} {inputs : List α}
    (ofInputs : ∀ a ∈ inputs, P a) (allowed : m.AllSteps Allowed s inputs) :
    m.AllSteps (fun t a => P a ∧ Allowed t a) s inputs := by
  induction inputs generalizing s with
  | nil => trivial
  | cons a rest ih =>
      rw [List.forall_mem_cons] at ofInputs
      exact ⟨⟨ofInputs.1, allowed.1⟩, ih ofInputs.2 allowed.2⟩

/-- A condition that follows from another in the states of an invariant. -/
theorem allSteps_of_invariant (Inv : σ → Prop) {Allowed P : σ → α → Prop}
    (preserved : ∀ s a, Inv s → Inv (m.step s a).1)
    (holds : ∀ s a, Inv s → Allowed s a → P s a) {s : σ} (start : Inv s) {inputs : List α}
    (allowed : m.AllSteps Allowed s inputs) : m.AllSteps P s inputs := by
  induction inputs generalizing s with
  | nil => trivial
  | cons a rest ih =>
      exact ⟨holds s a start allowed.1, ih (preserved s a start) allowed.2⟩

/-- Two conditions that agree in the states of an invariant, which the second preserves. -/
theorem allSteps_iff_of_invariant (Inv : σ → Prop) {P Q : σ → α → Prop}
    (agree : ∀ s a, Inv s → (P s a ↔ Q s a))
    (preserved : ∀ s a, Inv s → Q s a → Inv (m.step s a).1) {s : σ} (start : Inv s)
    (inputs : List α) : m.AllSteps P s inputs ↔ m.AllSteps Q s inputs := by
  induction inputs generalizing s with
  | nil => exact Iff.rfl
  | cons a rest ih =>
      show P s a ∧ _ ↔ Q s a ∧ _
      rw [agree s a start]
      exact and_congr_right fun holds => ih (preserved s a start holds)

/-- **The rank rule.**  Inputs that yield something are paid for by a rank that no allowed
input raises, so a run yields at most as often as the rank of its first state. -/
theorem yields_add_rank_le {γ : Type*} (yields : α × β → Option γ) (rank : σ → ℕ)
    (Inv : σ → Prop) (Allowed : σ → α → Prop)
    (preserved : ∀ s a, Inv s → Allowed s a → Inv (m.step s a).1)
    (paid : ∀ s a, Inv s → Allowed s a →
      (yields (a, (m.step s a).2)).toList.length + rank (m.step s a).1 ≤ rank s)
    {s : σ} (start : Inv s) (inputs : List α) (allowed : m.AllSteps Allowed s inputs) :
    ((m.log s inputs).filterMap yields).length + rank (m.exec s inputs) ≤ rank s := by
  induction inputs generalizing s with
  | nil => simp
  | cons a rest ih =>
      have first := paid s a start allowed.1
      have others := ih (preserved s a start allowed.1) allowed.2
      rw [log_cons, exec_cons, List.filterMap_cons]
      cases yielded : yields (a, (m.step s a).2) with
      | none => exact Nat.le_trans others (by omega)
      | some c =>
          rw [yielded, Option.toList_some, List.length_singleton] at first
          rw [List.length_cons]
          omega

end Machine

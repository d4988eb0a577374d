import CubeNano.Lib.Machine

/-!
# Entries of a machine's state

The state of a machine often holds entries under keys: rows, sessions, requests.
An `Entries` gives the view of one entry and says what one step may make of it,
so that a property of every entry, or of one entry over time, is proved from the
entry's own transitions and never from the whole state.

The transitions need only hold in states with the property `Sound`, which every
step keeps.

## Main definitions

* `Machine.Entries` — a view of the state by key, with its transitions

## Main statements

* `Entries.invariant` — a property of all entries of all reachable states
* `Entries.evolves` — how an entry of one state relates to the same entry later
-/

universe u v w

namespace Machine

variable {σ κ ρ : Type u} {α : Type v} {β : Type w}

/-- Entries under keys: which may appear, and what a step makes of one. -/
structure Entries (m : Machine σ α β) (κ ρ : Type u) where
  /-- The entry under a key. -/
  view : σ → κ → Option ρ
  /-- The states in which the transitions are known. -/
  Sound : σ → Prop
  /-- The entries a step may create. -/
  Born : σ → α → κ → ρ → Prop
  /-- What a step may make of an entry. -/
  Step : σ → α → κ → ρ → ρ → Prop
  sound_step : ∀ s a, Sound s → Sound (m.step s a).1
  born : ∀ s a k r, Sound s → view s k = none → view (m.step s a).1 k = some r → Born s a k r
  stepped : ∀ s a k r, Sound s → view s k = some r →
    ∃ r', view (m.step s a).1 k = some r' ∧ Step s a k r r'

namespace Entries

variable {m : Machine σ α β} (e : Entries m κ ρ)

theorem sound_exec {s : σ} (sound : e.Sound s) (inputs : List α) : e.Sound (m.exec s inputs) :=
  m.exec_invariant e.Sound sound e.sound_step inputs

/-- A property of the entries of one state holds of those of the next. -/
theorem invariant_step {P : κ → ρ → Prop} {s : σ} {a : α} (sound : e.Sound s)
    (born : ∀ k r, e.Born s a k r → P k r)
    (keeps : ∀ k r r', e.view s k = some r → e.Step s a k r r' → P k r → P k r')
    (before : ∀ k r, e.view s k = some r → P k r) :
    ∀ k r, e.view (m.step s a).1 k = some r → P k r := by
  intro k r' after
  cases now : e.view s k with
  | none => exact born k r' (e.born s a k r' sound now after)
  | some r =>
      obtain ⟨r'', found, step⟩ := e.stepped s a k r sound now
      obtain rfl := Option.some.inj (found.symm.trans after)
      exact keeps k r r'' now step (before k r now)

/-- **Entries of reachable states.**  A property that new entries have and that
every allowed step keeps holds of every entry of every state a run reaches. -/
theorem invariant (P : κ → ρ → Prop) (Allowed : σ → α → Prop)
    (born : ∀ s a k r, e.Sound s → Allowed s a → e.Born s a k r → P k r)
    (keeps : ∀ s a k r r', e.Sound s → Allowed s a → e.view s k = some r →
      e.Step s a k r r' → P k r → P k r') {s : σ} (sound : e.Sound s)
    (start : ∀ k r, e.view s k = some r → P k r) (inputs : List α)
    (allowed : m.AllSteps Allowed s inputs) :
    ∀ k r, e.view (m.exec s inputs) k = some r → P k r := by
  induction inputs generalizing s with
  | nil => exact start
  | cons a rest ih =>
      refine ih (e.sound_step s a sound) ?_ allowed.2
      exact e.invariant_step sound (fun k r => born s a k r sound allowed.1)
        (fun k r r' now => keeps s a k r r' sound allowed.1 now) start

/-- **An entry over time.**  A reflexive and transitive relation that every
allowed step respects relates an entry to the same entry at the end of a run. -/
theorem evolves (R : ρ → ρ → Prop) (Allowed : σ → α → Prop) {k : κ} (refl : ∀ r, R r r)
    (trans : ∀ r r' r'', R r r' → R r' r'' → R r r'')
    (respects : ∀ s a r r', e.Sound s → Allowed s a → e.view s k = some r →
      e.Step s a k r r' → R r r') {s : σ} (sound : e.Sound s) {r : ρ}
    (start : e.view s k = some r) (inputs : List α) (allowed : m.AllSteps Allowed s inputs) :
    ∃ r', e.view (m.exec s inputs) k = some r' ∧ R r r' := by
  induction inputs generalizing s r with
  | nil => exact ⟨r, start, refl r⟩
  | cons a rest ih =>
      obtain ⟨r', found, step⟩ := e.stepped s a k r sound start
      obtain ⟨r'', last, later⟩ := ih (e.sound_step s a sound) found allowed.2
      exact ⟨r'', last, trans r r' r'' (respects s a r r' sound allowed.1 start step) later⟩

end Entries

/-- A condition that always holds is met by every run. -/
theorem allSteps_of_forall {m : Machine σ α β} {Allowed : σ → α → Prop}
    (always : ∀ s a, Allowed s a) (s : σ) (inputs : List α) : m.AllSteps Allowed s inputs := by
  induction inputs generalizing s with
  | nil => trivial
  | cons a rest ih => exact ⟨always s a, ih _⟩

/-- A condition on the entries of the log, as one on the steps. -/
theorem allSteps_of_log {m : Machine σ α β} {P : α × β → Prop} {s : σ} {inputs : List α}
    (holds : ∀ entry ∈ m.log s inputs, P entry) :
    m.AllSteps (fun t a => P (a, (m.step t a).2)) s inputs := by
  induction inputs generalizing s with
  | nil => trivial
  | cons a rest ih =>
      rw [log_cons, List.forall_mem_cons] at holds
      exact ⟨holds.1, ih holds.2⟩

end Machine

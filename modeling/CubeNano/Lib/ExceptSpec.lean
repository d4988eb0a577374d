import Mathlib.Logic.Basic

/-!
# What a failing computation yields

`Yields Q E r` says of a computation that returns or raises: if it returned, `Q` holds
of its value; if it raised, `E` holds of the failure.  One rule per way of composing
computations derives it from the parts.

## Main statements

* `Yields.bind` — a sequence
* `Yields.weaken` — weaker conditions
-/

universe u v

/-- `Q` holds of what is returned and `E` of what is raised. -/
def Yields {ε : Type u} {α : Type v} (Q : α → Prop) (E : ε → Prop) : Except ε α → Prop
  | .ok value => Q value
  | .error failure => E failure

namespace Yields

variable {ε : Type u} {α β : Type v} {Q Q' : α → Prop} {E E' : ε → Prop} {r : Except ε α}

theorem weaken (h : Yields Q' E' r) (returns : ∀ a, Q' a → Q a) (raises : ∀ e, E' e → E e) :
    Yields Q E r := by
  cases r with
  | ok a => exact returns a h
  | error e => exact raises e h

theorem bind {R : α → Prop} {S : β → Prop} {next : α → Except ε β} (first : Yields R E r)
    (rest : ∀ a, R a → Yields S E (next a)) : Yields S E (r >>= next) := by
  cases r with
  | ok a => exact rest a first
  | error e => exact first

theorem ite {c : Prop} [Decidable c] {r' : Except ε α} (yes : c → Yields Q E r)
    (no : ¬ c → Yields Q E r') : Yields Q E (if c then r else r') := by
  by_cases h : c
  · rw [if_pos h]
    exact yes h
  · rw [if_neg h]
    exact no h

/-- The two conditions, from what is known of the two ends. -/
theorem intro (returns : ∀ a, r = .ok a → Q a) (raises : ∀ e, r = .error e → E e) :
    Yields Q E r := by
  cases r with
  | ok a => exact returns a rfl
  | error e => exact raises e rfl

end Yields

import Mathlib.Tactic.Ring
import Mathlib.Tactic.Linarith
import Mathlib.Data.Int.ModEq
import Mathlib.Data.Nat.ModEq
import Mathlib.Data.List.Induction

/-!
# Serial-number arithmetic

A counter that only its residue modulo `m` is transmitted of.  `delta m a b` is
the number of forward steps that lead from the residue `a` to the residue `b`.

* Forward: when the true counter moved by less than `m`, `delta` recovers the
  move (`delta_mod_eq_sub`) and the quotient moves exactly when the residue
  falls (`div_eq_of_delta`).
* Backward: after a forward journey of total length `S`, the way back to the
  first residue has length `m - S` (`delta_return`), so a receiver that accepts
  only moves below half the modulus cannot be sent back by a shorter journey
  than the other half.
-/

namespace Serial

/-- The forward distance between two residues. -/
def delta (m previous current : ℕ) : ℕ := (((current : ℤ) - previous) % m).toNat

theorem delta_lt {m : ℕ} (pos : 0 < m) (a b : ℕ) : delta m a b < m := by
  unfold delta
  have upper := Int.emod_lt_of_pos ((b : ℤ) - a) (by exact_mod_cast pos : (0 : ℤ) < m)
  have lower := Int.emod_nonneg ((b : ℤ) - a) (by exact_mod_cast pos.ne' : (m : ℤ) ≠ 0)
  omega

@[simp] theorem delta_self (m a : ℕ) : delta m a a = 0 := by simp [delta]

/-- `delta` is the least forward move: taking it leads to the current residue. -/
theorem add_delta_mod {m : ℕ} (pos : 0 < m) (a b : ℕ) : (a + delta m a b) % m = b % m := by
  have nonneg := Int.emod_nonneg ((b : ℤ) - a) (by exact_mod_cast pos.ne' : (m : ℤ) ≠ 0)
  have cast : ((a + delta m a b : ℕ) : ℤ) = a + ((b : ℤ) - a) % m := by
    rw [delta, Nat.cast_add, Int.toNat_of_nonneg nonneg]
  have key : ((a + delta m a b : ℕ) : ℤ) % m = (b : ℤ) % m := by
    rw [cast, Int.add_emod_emod]
    congr 1
    ring
  exact_mod_cast key

/-- A move of a true counter by less than the modulus is read off its residues. -/
theorem delta_mod_eq_sub {m u v : ℕ} (le : u ≤ v) (near : v - u < m) :
    delta m (u % m) (v % m) = v - u := by
  have residues : ((v % m : ℕ) : ℤ) - (u % m : ℕ) ≡ (v : ℤ) - u [ZMOD m] := by
    push_cast
    exact (Int.mod_modEq _ _).sub (Int.mod_modEq _ _)
  have reduced : ((v : ℤ) - u) % m = v - u := Int.emod_eq_of_lt (by omega) (by omega)
  unfold delta
  rw [residues.eq, reduced]
  omega

/-- Across a move by less than the modulus the quotient grows by one exactly
when the residue falls. -/
theorem div_eq_of_near {m u v : ℕ} (pos : 0 < m) (le : u ≤ v) (near : v - u < m) :
    v / m = u / m + (if v % m < u % m then 1 else 0) := by
  have hu := Nat.div_add_mod u m
  have hv := Nat.div_add_mod v m
  have ru := Nat.mod_lt u pos
  have rv := Nat.mod_lt v pos
  have mono : u / m ≤ v / m := Nat.div_le_div_right le
  have step : v / m ≤ u / m + 1 := by
    rw [← Nat.add_div_right u pos]
    exact Nat.div_le_div_right (by omega)
  obtain same | next : v / m = u / m ∨ v / m = u / m + 1 := by omega
  · rw [same] at hv
    rw [if_neg (by omega), same, Nat.add_zero]
  · rw [next, Nat.mul_add, Nat.mul_one] at hv
    rw [if_pos (by omega), next]

/-! ## Journeys -/

/-- The total forward distance of a journey through a list of residues. -/
def travelled (m : ℕ) : ℕ → List ℕ → ℕ
  | _, [] => 0
  | a, b :: rest => delta m a b + travelled m b rest

/-- The residue a journey ends at. -/
def arrival : ℕ → List ℕ → ℕ
  | a, [] => a
  | _, b :: rest => arrival b rest

@[simp] theorem travelled_nil (m a : ℕ) : travelled m a [] = 0 := rfl

@[simp] theorem arrival_nil (a : ℕ) : arrival a [] = a := rfl

theorem travelled_concat (m a b : ℕ) (stops : List ℕ) :
    travelled m a (stops ++ [b]) = travelled m a stops + delta m (arrival a stops) b := by
  induction stops generalizing a with
  | nil => simp [travelled]
  | cons c rest ih =>
      change delta m a c + travelled m c (rest ++ [b]) = _
      rw [ih c]
      change _ = delta m a c + travelled m c rest + delta m (arrival c rest) b
      omega

@[simp] theorem arrival_concat (a b : ℕ) (stops : List ℕ) : arrival a (stops ++ [b]) = b := by
  induction stops generalizing a with
  | nil => rfl
  | cons c rest ih => exact ih c

theorem add_travelled_mod {m : ℕ} (pos : 0 < m) (a : ℕ) (stops : List ℕ) :
    (a + travelled m a stops) % m = arrival a stops % m := by
  induction stops using List.reverseRecOn with
  | nil => rfl
  | append_singleton stops b ih =>
      have back : (arrival a stops + delta m (arrival a stops) b) % m = b % m :=
        add_delta_mod pos _ _
      rw [travelled_concat, arrival_concat, ← Nat.add_assoc, Nat.add_mod, ih, ← Nat.add_mod, back]

/-- **The way back.**  After a journey of total length `0 < S < m`, returning to
the first residue takes `m - S` forward steps. -/
theorem delta_return {m a : ℕ} {stops : List ℕ}
    (moved : 0 < travelled m a stops) (short : travelled m a stops < m) :
    delta m (arrival a stops) a = m - travelled m a stops := by
  have pos : 0 < m := by omega
  have there := add_travelled_mod pos a stops
  have back := add_delta_mod pos (arrival a stops) a
  have bound := delta_lt pos (arrival a stops) a
  have loop : (a + (travelled m a stops + delta m (arrival a stops) a)) % m = a % m := by
    rw [← Nat.add_assoc, Nat.add_mod, there, ← Nat.add_mod, back]
  have divides : m ∣ travelled m a stops + delta m (arrival a stops) a := by
    have congruent : a + (travelled m a stops + delta m (arrival a stops) a) ≡ a + 0 [MOD m] := by
      simpa [Nat.ModEq] using loop
    exact (Nat.modEq_zero_iff_dvd).mp (Nat.ModEq.add_left_cancel' a congruent)
  obtain ⟨k, hk⟩ := divides
  have one : k = 1 := by
    have upper : k < 2 := by
      by_contra large
      have : m * 2 ≤ m * k := Nat.mul_le_mul_left m (by omega)
      omega
    have lower : k ≠ 0 := by
      rintro rfl
      omega
    omega
  subst one
  omega

/-- A journey of length zero that ends where it can be told apart is no journey:
its arrival is the start. -/
theorem arrival_eq_of_travelled_eq_zero {m a : ℕ} (lt : a < m) {stops : List ℕ}
    (bounded : ∀ b ∈ stops, b < m) (still : travelled m a stops = 0) :
    arrival a stops = a := by
  have ends : arrival a stops < m := by
    cases stops using List.reverseRecOn with
    | nil => exact lt
    | append_singleton rest b => simpa using bounded b (by simp)
  have there := add_travelled_mod (by omega : 0 < m) a stops
  rw [still, Nat.add_zero, Nat.mod_eq_of_lt lt, Nat.mod_eq_of_lt ends] at there
  exact there.symm

/-! ## Epochs

A receiver that keeps a quotient (an epoch) beside the last residue, and moves
it only when it sees a single step across the modulus, misses every wrap that a
larger move jumps over. -/

/-- The number of times a sequence of true counter values jumps over a multiple
of the modulus by more than one step. -/
def lostWraps (m : ℕ) : List ℕ → ℕ
  | u :: v :: rest => (if v ≠ u + 1 ∧ u / m < v / m then 1 else 0) + lostWraps m (v :: rest)
  | _ => 0

/-- The move from `u` to `v` crosses no multiple of the modulus, or crosses one
by a single step. -/
def CrossesByStep (m u v : ℕ) : Prop := u / m < v / m → v = u + 1

instance (m u v : ℕ) : Decidable (CrossesByStep m u v) :=
  inferInstanceAs (Decidable (u / m < v / m → v = u + 1))

theorem lostWraps_eq_zero_iff (m : ℕ) (values : List ℕ) :
    lostWraps m values = 0 ↔ values.IsChain (CrossesByStep m) := by
  induction values with
  | nil => simp [lostWraps]
  | cons u rest ih =>
      cases rest with
      | nil => simp [lostWraps]
      | cons v rest =>
          rw [lostWraps, Nat.add_eq_zero_iff, ih, List.isChain_cons_cons]
          refine and_congr_left fun _ => ?_
          unfold CrossesByStep
          split
          · rename_i jump
            exact ⟨fun h => (by cases h), fun cross => absurd (cross jump.2) jump.1⟩
          · rename_i noJump
            refine ⟨fun _ cross => ?_, fun _ => rfl⟩
            by_contra differs
            exact noJump ⟨differs, cross⟩

theorem lostWraps_concat (m v : ℕ) (values : List ℕ) {u : ℕ} (last : values.getLast? = some u) :
    lostWraps m (values ++ [v]) =
      lostWraps m values + if v ≠ u + 1 ∧ u / m < v / m then 1 else 0 := by
  induction values with
  | nil => simp at last
  | cons w rest ih =>
      cases rest with
      | nil =>
          obtain rfl : w = u := by simpa using last
          simp [lostWraps]
      | cons x rest =>
          have lastRest : (x :: rest).getLast? = some u := by simpa using last
          change _ + lostWraps m (x :: rest ++ [v]) = _ + lostWraps m (x :: rest) + _
          rw [ih lastRest, Nat.add_assoc]

/-- The receiver's record of a sequence of true values: the last residue, and an
epoch that is behind by the lost wraps. -/
structure Tracked (m : ℕ) (history : List ℕ) (count epoch first last : ℕ) : Prop where
  head : history.head? = some first
  getLast : history.getLast? = some last
  count_eq : count = last % m
  epoch_eq : epoch + lostWraps m history + first / m = last / m

theorem tracked_start (m v : ℕ) : Tracked m [v] (v % m) 0 v v :=
  ⟨rfl, rfl, rfl, by simp [lostWraps]⟩

/-- One accepted value: the epoch moves exactly on a single step across the
modulus. -/
theorem Tracked.step {m count epoch first last v : ℕ} {history : List ℕ} (pos : 0 < m)
    (tracked : Tracked m history count epoch first last) (forward : last < v)
    (near : v - last < m) :
    Tracked m (history ++ [v]) (v % m)
      (epoch + if v = last + 1 ∧ v % m < last % m then 1 else 0) first v := by
  have quotient := div_eq_of_near pos forward.le near
  refine ⟨?_, by simp, rfl, ?_⟩
  · rw [List.head?_append, tracked.head, Option.some_or]
  · have crosses : last / m < v / m ↔ v % m < last % m := by
      rw [quotient]
      split <;> simp_all
    rw [lostWraps_concat m v history tracked.getLast, if_congr (and_congr_right fun _ => crosses)
      rfl rfl, quotient, ← tracked.epoch_eq]
    by_cases falls : v % m < last % m
    · by_cases single : v = last + 1
      · rw [if_pos ⟨single, falls⟩, if_neg (fun h => h.1 single), if_pos falls]
        omega
      · rw [if_neg (fun h => single h.1), if_pos ⟨single, falls⟩, if_pos falls]
        omega
    · rw [if_neg (fun h => falls h.2), if_neg (fun h => falls h.2), if_neg falls]
      omega

/-- **The tracked value is the true one exactly when no wrap was lost**: the
recorded unwrapped counter, measured from the first residue, equals the true
move. -/
theorem Tracked.unwrapped_eq_iff {m count epoch first last : ℕ} {history : List ℕ} (pos : 0 < m)
    (tracked : Tracked m history count epoch first last) :
    ((epoch * m + count : ℕ) : ℤ) - (first % m : ℕ) = (last : ℤ) - first ↔
      history.IsChain (CrossesByStep m) := by
  rw [← lostWraps_eq_zero_iff]
  have hlast := Nat.div_add_mod last m
  have hfirst := Nat.div_add_mod first m
  have hepoch := tracked.epoch_eq
  have hcount := tracked.count_eq
  set q := last / m
  set p := first / m
  set lost := lostWraps m history
  have expand : m * q = epoch * m + lost * m + m * p := by
    rw [← hepoch]
    ring
  constructor
  · intro same
    have zero : lost * m = 0 := by
      zify at expand hlast hfirst hcount same ⊢
      linarith
    exact (Nat.mul_eq_zero.mp zero).resolve_right pos.ne'
  · intro none
    rw [none, Nat.zero_mul, Nat.add_zero] at expand
    zify at expand hlast hfirst hcount ⊢
    linarith

/-- The recorded epoch counts the wraps of the true counter exactly when no wrap
was lost. -/
theorem Tracked.epoch_eq_iff {m count epoch first last : ℕ} {history : List ℕ}
    (tracked : Tracked m history count epoch first last) :
    epoch + first / m = last / m ↔ history.IsChain (CrossesByStep m) := by
  have hepoch := tracked.epoch_eq
  rw [← lostWraps_eq_zero_iff]
  omega

end Serial

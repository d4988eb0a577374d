import Mathlib.Data.Finset.Card
import Mathlib.Data.Finset.Insert
import Mathlib.Logic.Function.Basic

/-!
# Fences of readers and one writer

A fence counts the readers inside and has a flag for the writer.  A writer takes the flag,
so that no reader enters any more, waits until the readers have left, and gives the flag
back.  Threads are of any type; a thread is outside, reading, waiting for the readers with
the flag taken, or writing.

## Main definitions

* `ReadWriteFence`, `FenceRole`
* `ReadWriteFence.Excludes` — the counter counts, and there is one writer, alone

## Main statements

* `Excludes.enter`, `Excludes.leave`, `Excludes.acquire`, `Excludes.drained`,
  `Excludes.release` — the operations keep it
-/

universe u

/-- The state of the fence. -/
structure ReadWriteFence where
  readers : ℕ
  writeActive : Bool
  deriving DecidableEq

/-- Where a thread is. -/
inductive FenceRole
  | outside
  | reading
  | draining
  | writing
  deriving DecidableEq

namespace FenceRole

/-- The thread has taken the flag. -/
def holdsFlag (role : FenceRole) : Prop := role = draining ∨ role = writing

end FenceRole

namespace ReadWriteFence

variable {τ : Type u} {fence : ReadWriteFence} {role : τ → FenceRole} {t : τ}

/-- The counter counts the readers, at most one thread has the flag, and nobody reads while
it writes. -/
structure Excludes (fence : ReadWriteFence) (role : τ → FenceRole) : Prop where
  counted : ∃ inside : Finset τ, (∀ t, t ∈ inside ↔ role t = .reading) ∧
    inside.card = fence.readers
  flag : ∀ t, (role t).holdsFlag → fence.writeActive = true
  one : ∀ t t', (role t).holdsFlag → (role t').holdsFlag → t = t'
  alone : ∀ t, role t = .writing → fence.readers = 0

/-- Nobody reads while a thread writes. -/
theorem Excludes.not_reading (excludes : Excludes fence role) (writes : role t = .writing)
    (t' : τ) : role t' ≠ .reading := by
  intro reads
  obtain ⟨inside, members, card⟩ := excludes.counted
  rw [excludes.alone t writes, Finset.card_eq_zero] at card
  have mem := (members t').mpr reads
  rw [card] at mem
  exact absurd mem (Finset.notMem_empty t')

/-- A fence that nobody has touched. -/
theorem excludes_initial (outside : ∀ t, role t = .outside) : Excludes ⟨0, false⟩ role where
  counted := ⟨∅, fun t => by simp [outside t], rfl⟩
  flag t held := by simp [outside t, FenceRole.holdsFlag] at held
  one t _ held := by simp [outside t, FenceRole.holdsFlag] at held
  alone t writes := by simp [outside t] at writes

variable [DecidableEq τ]

/-- A thread keeps its role. -/
theorem Excludes.stay (excludes : Excludes fence role) {kept : FenceRole}
    (same : role t = kept) : Excludes fence (Function.update role t kept) := by
  rw [← same, Function.update_eq_self]
  exact excludes

/-- `read`: a reader enters while no flag is taken. -/
theorem Excludes.enter (excludes : Excludes fence role) (free : fence.writeActive = false)
    (outside : role t = .outside) :
    Excludes { fence with readers := fence.readers + 1 }
      (Function.update role t .reading) := by
  have noFlag (t' : τ) : ¬ (Function.update role t .reading t').holdsFlag := by
    intro held
    by_cases same : t' = t
    · rw [same, Function.update_self] at held
      simp [FenceRole.holdsFlag] at held
    · rw [Function.update_of_ne same] at held
      have taken := excludes.flag t' held
      rw [free] at taken
      cases taken
  obtain ⟨inside, members, card⟩ := excludes.counted
  have absent : t ∉ inside := by
    rw [members, outside]
    nofun
  refine ⟨⟨insert t inside, fun t' => ?_, ?_⟩, fun t' held => absurd held (noFlag t'),
    fun t' _ held => absurd held (noFlag t'), fun t' writes => absurd (.inr writes) (noFlag t')⟩
  · by_cases same : t' = t
    · simp [same]
    · rw [Finset.mem_insert, Function.update_of_ne same, members]
      exact or_iff_right same
  · rw [Finset.card_insert_of_notMem absent, card]

/-- The reader leaves. -/
theorem Excludes.leave (excludes : Excludes fence role) (reads : role t = .reading) :
    Excludes { fence with readers := fence.readers - 1 }
      (Function.update role t .outside) := by
  have before (t' : τ) (held : (Function.update role t .outside t').holdsFlag) :
      (role t').holdsFlag := by
    by_cases same : t' = t
    · rw [same, Function.update_self] at held
      simp [FenceRole.holdsFlag] at held
    · rwa [Function.update_of_ne same] at held
  obtain ⟨inside, members, card⟩ := excludes.counted
  have mem : t ∈ inside := (members t).mpr reads
  refine ⟨⟨inside.erase t, fun t' => ?_, ?_⟩, fun t' held => excludes.flag t' (before t' held),
    fun t' t'' held held' => excludes.one t' t'' (before t' held) (before t'' held'),
    fun t' writes => ?_⟩
  · by_cases same : t' = t
    · simp [same]
    · rw [Finset.mem_erase, Function.update_of_ne same, members]
      exact and_iff_right same
  · rw [Finset.card_erase_of_mem mem, card]
  · have wrote : role t' = .writing := by
      by_cases same : t' = t
      · rw [same, Function.update_self] at writes
        cases writes
      · rwa [Function.update_of_ne same] at writes
    exact absurd reads (excludes.not_reading wrote t)

/-- `write`: a thread takes the flag. -/
theorem Excludes.acquire (excludes : Excludes fence role) (free : fence.writeActive = false)
    (outside : role t = .outside) :
    Excludes { fence with writeActive := true } (Function.update role t .draining) := by
  have only (t' : τ) (held : (Function.update role t .draining t').holdsFlag) : t' = t := by
    by_contra differs
    rw [Function.update_of_ne differs] at held
    have taken := excludes.flag t' held
    rw [free] at taken
    cases taken
  obtain ⟨inside, members, card⟩ := excludes.counted
  refine ⟨⟨inside, fun t' => ?_, card⟩, fun _ _ => rfl,
    fun t' t'' held held' => (only t' held).trans (only t'' held').symm, fun t' writes => ?_⟩
  · rw [members]
    by_cases same : t' = t
    · simp [same, outside]
    · rw [Function.update_of_ne same]
  · rw [only t' (.inr writes), Function.update_self] at writes
    cases writes

/-- The readers have left. -/
theorem Excludes.drained (excludes : Excludes fence role) (empty : fence.readers = 0)
    (waits : role t = .draining) : Excludes fence (Function.update role t .writing) := by
  have before (t' : τ) (held : (Function.update role t .writing t').holdsFlag) :
      (role t').holdsFlag := by
    by_cases same : t' = t
    · rw [same]
      exact .inl waits
    · rwa [Function.update_of_ne same] at held
  obtain ⟨inside, members, card⟩ := excludes.counted
  refine ⟨⟨inside, fun t' => ?_, card⟩, fun t' held => excludes.flag t' (before t' held),
    fun t' t'' held held' => excludes.one t' t'' (before t' held) (before t'' held'),
    fun _ _ => empty⟩
  rw [members]
  by_cases same : t' = t
  · simp [same, waits]
  · rw [Function.update_of_ne same]

/-- The writer gives the flag back. -/
theorem Excludes.release (excludes : Excludes fence role) (writes : role t = .writing) :
    Excludes { fence with writeActive := false } (Function.update role t .outside) := by
  have noFlag (t' : τ) : ¬ (Function.update role t .outside t').holdsFlag := by
    intro held
    by_cases same : t' = t
    · rw [same, Function.update_self] at held
      simp [FenceRole.holdsFlag] at held
    · rw [Function.update_of_ne same] at held
      exact same (excludes.one t' t held (.inr writes))
  obtain ⟨inside, members, card⟩ := excludes.counted
  refine ⟨⟨inside, fun t' => ?_, card⟩, fun t' held => absurd held (noFlag t'),
    fun t' _ held => absurd held (noFlag t'), fun t' writes => absurd (.inr writes) (noFlag t')⟩
  rw [members]
  by_cases same : t' = t
  · simp [same, writes]
  · rw [Function.update_of_ne same]

end ReadWriteFence

import Mathlib.Data.List.Nodup
import Mathlib.Data.Nat.Bitwise

/-!
# Masks of named bits

An encoding gives each of its names a bit of its own.  A mask is a number, and it has a name where
the bit of the name is set; the union of two masks has the names of both.

## Main definitions

* `NamedBits` — names with distinct powers of two
* `NamedBits.Has` — a mask has a name

## Main statements

* `NamedBits.has_or`, `NamedBits.has_bit` — the names of a union, and of a bit
-/

/-- Names with their bits. -/
structure NamedBits (ν : Type*) where
  bits : List (ν × ℕ)
  distinct : (bits.map Prod.snd).Nodup
  single : ∀ entry ∈ bits, ∃ k, entry.2 = 2 ^ k

namespace NamedBits

variable {ν : Type*} [DecidableEq ν] (e : NamedBits ν)

/-- The bit of a name. -/
def bit? (name : ν) : Option ℕ := e.bits.lookup name

/-- A mask has a name whose bit it has. -/
def Has (mask : ℕ) (name : ν) : Prop := ∃ bit, e.bit? name = some bit ∧ mask &&& bit ≠ 0

instance (mask : ℕ) (name : ν) : Decidable (e.Has mask name) :=
  match found : e.bit? name with
  | none => isFalse fun ⟨_, same, _⟩ => nomatch found.symm.trans same
  | some bit =>
      decidable_of_iff (mask &&& bit ≠ 0)
        ⟨fun set => ⟨bit, found, set⟩,
          fun ⟨_, same, set⟩ => Option.some.inj (found.symm.trans same) ▸ set⟩

theorem not_has_zero (name : ν) : ¬e.Has 0 name := by
  rintro ⟨bit, -, set⟩
  exact set (Nat.zero_and bit)

/-- **The names of a union** are those of its parts. -/
theorem has_or (mask mask' : ℕ) (name : ν) :
    e.Has (mask ||| mask') name ↔ e.Has mask name ∨ e.Has mask' name := by
  have split (bit : ℕ) : (mask ||| mask') &&& bit ≠ 0 ↔ mask &&& bit ≠ 0 ∨ mask' &&& bit ≠ 0 := by
    rw [Nat.and_or_distrib_right, ne_eq, Nat.or_eq_zero_iff, not_and_or]
  unfold Has
  simp only [split, and_or_left, exists_or]

/-- The names of a union over a list. -/
theorem has_foldl_or {α : Type*} (part : α → ℕ) (items : List α) (mask : ℕ) (name : ν) :
    e.Has (items.foldl (fun mask item => mask ||| part item) mask) name ↔
      e.Has mask name ∨ ∃ item ∈ items, e.Has (part item) name := by
  induction items generalizing mask with
  | nil => simp
  | cons item rest ih =>
      rw [List.foldl_cons, ih, has_or, or_assoc, List.exists_mem_cons_iff]

theorem mem_of_bit? {name : ν} {bit : ℕ} (found : e.bit? name = some bit) :
    (name, bit) ∈ e.bits := by
  unfold bit? at found
  generalize e.bits = bits at found
  induction bits with
  | nil => exact nomatch found
  | cons entry rest ih =>
      obtain ⟨name', bit'⟩ := entry
      rw [List.lookup_cons] at found
      split at found
      · rename_i same
        cases found
        rw [eq_of_beq same]
        exact List.mem_cons_self
      · exact List.mem_cons_of_mem _ (ih found)

/-- Two names that share a bit are one. -/
theorem eq_of_bit? {name name' : ν} {bit : ℕ} (found : e.bit? name = some bit)
    (found' : e.bit? name' = some bit) : name = name' :=
  congrArg Prod.fst (List.inj_on_of_nodup_map e.distinct (e.mem_of_bit? found)
    (e.mem_of_bit? found') rfl)

/-- **The name of a bit** is its own. -/
theorem has_bit {name : ν} {bit : ℕ} (found : e.bit? name = some bit) (name' : ν) :
    e.Has bit name' ↔ name' = name := by
  constructor
  · rintro ⟨bit', found', set⟩
    obtain ⟨k, same⟩ := e.single _ (e.mem_of_bit? found)
    obtain ⟨k', same'⟩ := e.single _ (e.mem_of_bit? found')
    obtain rfl : bit = 2 ^ k := same
    obtain rfl : bit' = 2 ^ k' := same'
    have together : k = k' := by
      by_contra apart
      refine set (Nat.eq_of_testBit_eq fun i => ?_)
      rw [Nat.testBit_and, Nat.testBit_two_pow, Nat.testBit_two_pow, Nat.zero_testBit]
      by_cases here : k = i
      · rw [decide_eq_false fun there : k' = i => apart (here.trans there.symm), Bool.and_false]
      · rw [decide_eq_false here, Bool.false_and]
    exact e.eq_of_bit? found' (together ▸ found)
  · rintro rfl
    obtain ⟨k, same⟩ := e.single _ (e.mem_of_bit? found)
    refine ⟨bit, found, ?_⟩
    rw [Nat.and_self, show bit = 2 ^ k from same]
    exact (Nat.two_pow_pos k).ne'

end NamedBits

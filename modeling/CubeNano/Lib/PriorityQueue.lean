import Mathlib.Order.Lex
import Mathlib.Data.Prod.Lex
import Mathlib.Data.List.Pairwise

/-!
# Priority queues

A `PriorityQueue κ π` holds payloads of type `π` under keys of a linear order,
least key first.  It is what a binary heap does, seen through `push` and `pop?`
alone: `pop?` removes an entry with a least key (`key_le_of_pop?`).
-/

universe u v

/-- Payloads under keys of a linear order, least key first. -/
structure PriorityQueue (κ : Type u) (π : Type v) [LinearOrder κ] where
  /-- The entries in the order they leave. -/
  entries : List (κ × π)
  /-- No entry leaves before one with a smaller key. -/
  sorted : entries.Pairwise fun a b => a.1 ≤ b.1

namespace PriorityQueue

variable {κ : Type u} {π : Type v} [LinearOrder κ]

/-- The queue without entries. -/
def empty : PriorityQueue κ π := ⟨[], .nil⟩

instance : Inhabited (PriorityQueue κ π) := ⟨empty⟩

/-- Put an entry behind those with keys up to its own. -/
def insertSorted (key : κ) (payload : π) : List (κ × π) → List (κ × π)
  | [] => [(key, payload)]
  | entry :: rest =>
      if key < entry.1 then (key, payload) :: entry :: rest
      else entry :: insertSorted key payload rest

theorem mem_insertSorted {key : κ} {payload : π} {entries : List (κ × π)} {entry : κ × π} :
    entry ∈ insertSorted key payload entries ↔ entry = (key, payload) ∨ entry ∈ entries := by
  induction entries with
  | nil => simp [insertSorted]
  | cons first rest ih =>
      unfold insertSorted
      split
      · simp
      · simp only [List.mem_cons, ih]
        tauto

theorem sorted_insertSorted {key : κ} {payload : π} {entries : List (κ × π)}
    (sorted : entries.Pairwise fun a b => a.1 ≤ b.1) :
    (insertSorted key payload entries).Pairwise fun a b => a.1 ≤ b.1 := by
  induction entries with
  | nil => simp [insertSorted]
  | cons first rest ih =>
      rw [List.pairwise_cons] at sorted
      unfold insertSorted
      split
      · rename_i before
        refine List.pairwise_cons.mpr ⟨fun entry mem => ?_, List.pairwise_cons.mpr sorted⟩
        rcases List.mem_cons.mp mem with rfl | later
        · exact before.le
        · exact before.le.trans (sorted.1 entry later)
      · rename_i notBefore
        refine List.pairwise_cons.mpr ⟨fun entry mem => ?_, ih sorted.2⟩
        rcases mem_insertSorted.mp mem with rfl | later
        · exact not_lt.mp notBefore
        · exact sorted.1 entry later

/-- Add an entry. -/
def push (q : PriorityQueue κ π) (key : κ) (payload : π) : PriorityQueue κ π :=
  ⟨insertSorted key payload q.entries, sorted_insertSorted q.sorted⟩

/-- Remove an entry with a least key. -/
def pop? (q : PriorityQueue κ π) : Option ((κ × π) × PriorityQueue κ π) :=
  match q with
  | ⟨[], _⟩ => none
  | ⟨entry :: rest, sorted⟩ => some (entry, ⟨rest, (List.pairwise_cons.mp sorted).2⟩)

instance : Membership (κ × π) (PriorityQueue κ π) := ⟨fun q entry => entry ∈ q.entries⟩

/-- The queue has no entries. -/
def isEmpty (q : PriorityQueue κ π) : Bool := q.entries.isEmpty

theorem not_mem_empty (entry : κ × π) : entry ∉ (empty : PriorityQueue κ π) :=
  List.not_mem_nil

theorem mem_push {q : PriorityQueue κ π} {key : κ} {payload : π} {entry : κ × π} :
    entry ∈ q.push key payload ↔ entry = (key, payload) ∨ entry ∈ q := mem_insertSorted

theorem mem_of_pop? {q rest : PriorityQueue κ π} {least : κ × π} (h : q.pop? = some (least, rest))
    {entry : κ × π} : entry ∈ q ↔ entry = least ∨ entry ∈ rest := by
  obtain ⟨_ | ⟨first, others⟩, sorted⟩ := q
  · cases h
  · cases h
    exact List.mem_cons

/-- **What leaves is least.** -/
theorem key_le_of_pop? {q rest : PriorityQueue κ π} {least : κ × π}
    (h : q.pop? = some (least, rest)) {entry : κ × π} (mem : entry ∈ rest) :
    least.1 ≤ entry.1 := by
  obtain ⟨_ | ⟨first, others⟩, sorted⟩ := q
  · cases h
  · cases h
    exact (List.pairwise_cons.mp sorted).1 entry mem

theorem entries_of_pop? {q rest : PriorityQueue κ π} {least : κ × π}
    (h : q.pop? = some (least, rest)) : q.entries = least :: rest.entries := by
  obtain ⟨_ | ⟨first, others⟩, sorted⟩ := q
  · cases h
  · cases h
    rfl

theorem length_of_pop? {q rest : PriorityQueue κ π} {least : κ × π}
    (h : q.pop? = some (least, rest)) : q.entries.length = rest.entries.length + 1 := by
  obtain ⟨_ | ⟨first, others⟩, sorted⟩ := q
  · cases h
  · cases h
    rfl

/-! ## Pairs of entries -/

theorem insertSorted_perm (key : κ) (payload : π) (entries : List (κ × π)) :
    (insertSorted key payload entries).Perm ((key, payload) :: entries) := by
  induction entries with
  | nil => exact .refl _
  | cons first rest ih =>
      unfold insertSorted
      split
      · exact .refl _
      · exact (ih.cons first).trans (.swap _ _ _)

/-- A symmetric relation between all entries survives a push of an entry that is
related to all. -/
theorem pairwise_push {R : κ × π → κ × π → Prop} (symmetric : ∀ a b, R a b → R b a)
    {q : PriorityQueue κ π} {key : κ} {payload : π} (pairs : q.entries.Pairwise R)
    (related : ∀ entry ∈ q, R (key, payload) entry) :
    (q.push key payload).entries.Pairwise R := by
  have permuted := insertSorted_perm key payload q.entries
  exact (permuted.pairwise_iff (fun {a b} h => symmetric a b h)).mpr
    (List.pairwise_cons.mpr ⟨related, pairs⟩)

/-- The entry that leaves is related to all that stay, and those to each other. -/
theorem pairwise_of_pop? {R : κ × π → κ × π → Prop} {q rest : PriorityQueue κ π}
    {least : κ × π} (h : q.pop? = some (least, rest)) (pairs : q.entries.Pairwise R) :
    (∀ entry ∈ rest, R least entry) ∧ rest.entries.Pairwise R := by
  obtain ⟨_ | ⟨first, others⟩, sorted⟩ := q
  · cases h
  · cases h
    exact List.pairwise_cons.mp pairs

end PriorityQueue

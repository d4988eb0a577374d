import CubeNano.Lib.OrderedLog
import Mathlib.Order.MinMax

/-!
# Followers of a log

A follower keeps a state and a cursor.  It takes the entries of an ascending log as they are
handed out, possibly again, and replaces its state by a replay of the log from time to time.
It is up to date if its state is the replay up to its cursor and the entries behind the
cursor that were handed out do nothing to the state.

## Main definitions

* `LogFollower.replay` — the state the entries up to a key lead to
* `LogFollower.Follows` — a follower that is up to date

## Main statements

* `LogFollower.Follows.entry` — it stays up to date when it applies the next entry
* `LogFollower.Follows.skip` — or passes over one
* `LogFollower.Follows.snapshot` — or is replaced by a replay that is not older
-/

universe u v w

namespace LogFollower

open OrderedLog

variable {σ : Type u} {ε : Type v} {ι : Type w} [LinearOrder ι] (key : ε → ι) (apply : σ → ε → σ)

/-- The state that the entries up to a key lead to. -/
def replay (base : σ) (log : List ε) (cursor : ι) : σ :=
  (log.filter fun e => key e ≤ cursor).foldl apply base

/-- The state is the replay up to the cursor, and the entries behind the cursor that were handed
out do nothing to it. -/
structure Follows (base : σ) (log : List ε) (s : σ) (cursor handed : ι) : Prop where
  state : s = replay key apply base log cursor
  idle : ∀ e ∈ log, cursor < key e → key e ≤ handed → apply s e = s

variable {key apply} {base s : σ} {log : List ε} {cursor handed : ι}

/-- The entries up to a key are the ones up to an earlier key and the ones between. -/
theorem filter_append_window (ascending : Ascending key log) {a b : ι} (le : a ≤ b) :
    (log.filter fun e => key e ≤ a) ++ window key log a b = log.filter fun e => key e ≤ b := by
  induction log with
  | nil => rfl
  | cons x rest ih =>
      obtain ⟨above, ascending⟩ := List.pairwise_cons.mp ascending
      by_cases low : key x ≤ a
      · have outside : ¬ (a < key x ∧ key x ≤ b) := fun both => not_lt_of_ge low both.1
        rw [window, List.filter_cons_of_pos (by simpa using low),
          List.filter_cons_of_neg (by simpa using outside),
          List.filter_cons_of_pos (by simpa using low.trans le), List.cons_append]
        exact congrArg (x :: ·) (ih ascending)
      · -- every entry from here on is behind the first key
        have empty : (x :: rest).filter (fun e => key e ≤ a) = [] := by
          refine List.filter_eq_nil_iff.mpr fun y mem within => ?_
          rcases List.mem_cons.mp mem with rfl | mem
          · exact low (of_decide_eq_true within)
          · exact low ((above y mem).le.trans (of_decide_eq_true within))
        rw [empty, List.nil_append]
        refine List.filter_congr fun y mem => ?_
        have behind : a < key y := by
          rcases List.mem_cons.mp mem with rfl | mem
          · exact lt_of_not_ge low
          · exact (lt_of_not_ge low).trans (above y mem)
        simp [behind]

/-- Entries that do nothing to a state lead to the same state. -/
theorem foldl_eq_of_idle {part : List ε} (idle : ∀ e ∈ part, apply s e = s) :
    part.foldl apply s = s := by
  induction part with
  | nil => rfl
  | cons e rest ih =>
      rw [List.forall_mem_cons] at idle
      rw [List.foldl_cons, idle.1]
      exact ih idle.2

theorem replay_eq_foldl (ascending : Ascending key log) {a b : ι} (le : a ≤ b) :
    replay key apply base log b =
      (window key log a b).foldl apply (replay key apply base log a) := by
  rw [replay, ← filter_append_window ascending le, List.foldl_append, replay]

/-- Entries are told apart by their keys. -/
theorem eq_of_key_eq (ascending : Ascending key log) {e e' : ε} (mem : e ∈ log) (mem' : e' ∈ log)
    (same : key e = key e') : e = e' := by
  induction log with
  | nil => cases mem
  | cons x rest ih =>
      obtain ⟨above, ascending⟩ := List.pairwise_cons.mp ascending
      rcases List.mem_cons.mp mem with rfl | later
      · rcases List.mem_cons.mp mem' with rfl | later'
        · rfl
        · exact absurd same (ne_of_lt (above e' later'))
      · rcases List.mem_cons.mp mem' with rfl | later'
        · exact absurd same.symm (ne_of_lt (above e later))
        · exact ih ascending later later'

/-- A part whose last entry is the only one that does anything. -/
theorem foldl_eq_apply {part : List ε} (ascending : Ascending key part) {e : ε} (mem : e ∈ part)
    (last : ∀ x ∈ part, key x ≤ key e) (idle : ∀ x ∈ part, key x < key e → apply s x = s) :
    part.foldl apply s = apply s e := by
  induction part with
  | nil => cases mem
  | cons x rest ih =>
      obtain ⟨above, ascending⟩ := List.pairwise_cons.mp ascending
      rw [List.forall_mem_cons] at last idle
      rcases List.mem_cons.mp mem with rfl | mem
      · cases rest with
        | nil => rfl
        | cons y rest => exact absurd (above y (.head _)) (not_lt_of_ge (last.2 y (.head _)))
      · rw [List.foldl_cons, idle.1 (above e mem)]
        exact ih ascending mem last.2 idle.2

namespace Follows

/-- Up to any key that was handed out the replay is the state. -/
theorem replay_eq (follows : Follows key apply base log s cursor handed)
    (ascending : Ascending key log) {c : ι} (le : cursor ≤ c)
    (idle : ∀ e ∈ log, cursor < key e → key e ≤ c → apply s e = s) :
    replay key apply base log c = s := by
  rw [replay_eq_foldl ascending le, ← follows.state]
  exact foldl_eq_of_idle fun e mem => by
    obtain ⟨mem, after, upTo⟩ := mem_window_iff.mp mem
    exact idle e mem after upTo

/-- **The next entry**, applied. -/
theorem entry (follows : Follows key apply base log s cursor handed)
    (ascending : Ascending key log) {e : ε} (mem : e ∈ log) (after : cursor < key e)
    (next : ∀ e' ∈ log, key e' < key e → key e' ≤ handed) :
    Follows key apply base log (apply s e) (key e) (max handed (key e)) := by
  refine ⟨?_, fun e' mem' behind upTo => ?_⟩
  · rw [replay_eq_foldl ascending after.le, ← follows.state]
    refine (foldl_eq_apply ascending.window (mem_window_iff.mpr ⟨mem, after, le_refl _⟩)
      (fun x within => (mem_window_iff.mp within).2.2) fun x within before => ?_).symm
    obtain ⟨mem', behind, -⟩ := mem_window_iff.mp within
    exact follows.idle x mem' behind (next x mem' before)
  · -- an entry behind the applied one was handed out before, so the applied one did nothing
    have handedOut : key e' ≤ handed := by
      rcases le_max_iff.mp upTo with le | le
      · exact le
      · exact absurd behind (not_lt_of_ge le)
    have idle : apply s e = s := follows.idle e mem after (behind.le.trans handedOut)
    rw [idle]
    exact follows.idle e' mem' (after.trans behind) handedOut

/-- **An entry that is passed over**: it is not behind the cursor, or does nothing. -/
theorem skip (follows : Follows key apply base log s cursor handed)
    (ascending : Ascending key log) {e : ε} (mem : e ∈ log)
    (done : cursor < key e → apply s e = s)
    (next : ∀ e' ∈ log, key e' < key e → key e' ≤ handed) :
    Follows key apply base log s cursor (max handed (key e)) := by
  refine ⟨follows.state, fun e' mem' after upTo => ?_⟩
  rcases lt_trichotomy (key e') (key e) with lt | same | gt
  · exact follows.idle e' mem' after (next e' mem' lt)
  · cases eq_of_key_eq ascending mem' mem same
    exact done after
  · rcases le_max_iff.mp upTo with le | le
    · exact follows.idle e' mem' after le
    · exact absurd gt (not_lt_of_ge le)

/-- **A replay** that is not older replaces the state. -/
theorem snapshot (follows : Follows key apply base log s cursor handed)
    (ascending : Ascending key log) {c : ι} (le : cursor ≤ c) :
    Follows key apply base log (replay key apply base log c) c (max handed c) := by
  refine ⟨rfl, fun e mem after upTo => ?_⟩
  have handedOut : key e ≤ handed := by
    rcases le_max_iff.mp upTo with h | h
    · exact h
    · exact absurd after (not_lt_of_ge h)
  -- the entries up to the cursor of the replay were handed out as well
  have same : replay key apply base log c = s := follows.replay_eq ascending le
    fun x mem' behind upTo' => follows.idle x mem' behind (upTo'.trans (after.le.trans handedOut))
  rw [same]
  exact follows.idle e mem (le.trans_lt after) handedOut

end Follows

end LogFollower

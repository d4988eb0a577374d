import Mathlib.Data.List.Basic
import Mathlib.Data.List.Infix
import Mathlib.Order.Defs.LinearOrder
import Mathlib.Order.Lattice

/-!
# Windows of an ascending log

A log is a list whose entries ascend by a key.  A window is the part of it between two
keys; consecutive windows join, and whatever has been read of a log from a key on is a
window.

## Main definitions

* `OrderedLog.Ascending` — the keys ascend
* `OrderedLog.window` — the entries after a key, up to another

## Main statements

* `OrderedLog.window_append_window` — consecutive windows join
* `OrderedLog.eq_window_of_prefix_last` — what has been read is a window
* `OrderedLog.window_append_next` — the next entry extends a window
-/

universe u v

namespace OrderedLog

variable {α : Type u} {ι : Type v} [LinearOrder ι] (key : α → ι)

/-- The keys of the entries ascend. -/
def Ascending (log : List α) : Prop := log.Pairwise fun x y => key x < key y

/-- The entries after a key, up to another. -/
def window (log : List α) (after upTo : ι) : List α :=
  log.filter fun x => after < key x ∧ key x ≤ upTo

variable {key} {log : List α} {a b c : ι}

theorem mem_window_iff {x : α} : x ∈ window key log a b ↔ x ∈ log ∧ a < key x ∧ key x ≤ b := by
  simp [window]

theorem Ascending.sublist {part : List α} (ascending : Ascending key log)
    (sub : part.Sublist log) : Ascending key part :=
  List.Pairwise.sublist sub ascending

/-- A window ascends like its log. -/
theorem Ascending.window (ascending : Ascending key log) :
    Ascending key (window key log a b) :=
  ascending.sublist List.filter_sublist

theorem window_eq_nil_of_le (le : b ≤ a) : window key log a b = [] := by
  refine List.filter_eq_nil_iff.mpr fun x _ within => ?_
  obtain ⟨after, upTo⟩ := of_decide_eq_true within
  exact absurd (after.trans_le upTo) (not_lt_of_ge le)

/-- Consecutive windows join. -/
theorem window_append_window (ascending : Ascending key log) (first : a ≤ b) (second : b ≤ c) :
    window key log a b ++ window key log b c = window key log a c := by
  induction log with
  | nil => rfl
  | cons x rest ih =>
      obtain ⟨above, ascending⟩ := List.pairwise_cons.mp ascending
      have joined := ih ascending
      by_cases low : key x ≤ b
      · -- the entry is in the first window or in none
        have inSecond : ¬ (b < key x ∧ key x ≤ c) := fun both => absurd both.1 (not_lt_of_ge low)
        have same : (a < key x ∧ key x ≤ b) ↔ (a < key x ∧ key x ≤ c) :=
          and_congr_right fun _ => ⟨fun upTo => upTo.trans second, fun _ => low⟩
        simp only [window, List.filter_cons, inSecond, same, decide_false, Bool.false_eq_true,
          if_false]
        split
        · rw [List.cons_append]
          exact congrArg (x :: ·) joined
        · exact joined
      · -- every entry from here on is behind the first window
        have high : b < key x := lt_of_not_ge low
        have empty : window key (x :: rest) a b = [] := by
          refine List.filter_eq_nil_iff.mpr fun y mem within => ?_
          have upTo := (of_decide_eq_true within).2
          rcases List.mem_cons.mp mem with rfl | mem
          · exact low upTo
          · exact absurd ((high.trans (above y mem)).trans_le upTo) (lt_irrefl b)
        rw [empty, List.nil_append]
        refine List.filter_congr fun y mem => ?_
        have behind : b < key y := by
          rcases List.mem_cons.mp mem with rfl | mem
          · exact high
          · exact high.trans (above y mem)
        simp [behind, first.trans_lt behind]

/-- More entries behind a window leave it as it is. -/
theorem window_append_of_lt {more : List α} (behind : ∀ x ∈ more, b < key x) :
    window key (log ++ more) a b = window key log a b := by
  rw [window, List.filter_append]
  have empty : more.filter (fun x => a < key x ∧ key x ≤ b) = [] := by
    refine List.filter_eq_nil_iff.mpr fun x mem within => ?_
    exact absurd (behind x mem) (not_lt_of_ge (of_decide_eq_true within).2)
  rw [empty, List.append_nil]
  rfl

/-- What has been read of an ascending list is its part up to the last entry read. -/
theorem eq_filter_of_prefix_last {part : List α} (ascending : Ascending key log) (read : part <+: log)
    {last : α} (end_ : part.getLast? = some last) :
    part = log.filter fun x => key x ≤ key last := by
  obtain ⟨rest, rfl⟩ := read
  obtain ⟨-, -, apart⟩ := List.pairwise_append.mp ascending
  obtain ⟨front, rfl⟩ := List.getLast?_eq_some_iff.mp end_
  have inFront : ∀ x ∈ front ++ [last], key x ≤ key last := by
    intro x mem
    obtain ⟨upTo, -, -⟩ := List.pairwise_append.mp ascending
    obtain ⟨-, -, before⟩ := List.pairwise_append.mp upTo
    rcases List.mem_append.mp mem with mem | mem
    · exact (before x mem last (.head _)).le
    · rw [List.mem_singleton.mp mem]
  rw [List.filter_append, List.filter_eq_self.mpr fun x mem => decide_eq_true (inFront x mem)]
  have none : rest.filter (fun x => key x ≤ key last) = [] := by
    refine List.filter_eq_nil_iff.mpr fun x mem within => ?_
    exact absurd (apart last (by simp) x mem) (not_lt_of_ge (of_decide_eq_true within))
  rw [none, List.append_nil]

/-- What has been read of a window is a window. -/
theorem eq_window_of_prefix_last {part : List α} (ascending : Ascending key log)
    (read : part <+: window key log a b) {last : α} (end_ : part.getLast? = some last) :
    part = window key log a (key last) := by
  have lastIn : last ∈ window key log a b :=
    read.subset (List.mem_of_getLast? end_)
  have upTo := (mem_window_iff.mp lastIn).2.2
  rw [eq_filter_of_prefix_last ascending.window read end_, window, window, List.filter_filter]
  refine List.filter_congr fun x _ => ?_
  by_cases low : key x ≤ key last
  · simp [low, low.trans upTo]
  · simp [low]

/-- A page of a log, cut at a key, is the log cut there, if a full page reaches the key. -/
theorem filter_take_of_reaches {n : ℕ} (ascending : Ascending key log) (pos : 0 < n)
    (reaches : n ≤ ((log.take n).filter fun x => key x ≤ b).length →
      ∀ last, (log.take n).getLast? = some last → b ≤ key last) :
    ((log.take n).filter fun x => key x ≤ b) = log.filter fun x => key x ≤ b := by
  have split := List.take_append_drop n log
  obtain ⟨-, -, apart⟩ := List.pairwise_append.mp (by rw [split]; exact ascending)
  conv_rhs => rw [← split, List.filter_append]
  have none : (log.drop n).filter (fun x => key x ≤ b) = [] := by
    refine List.filter_eq_nil_iff.mpr fun x mem within => ?_
    have upTo : key x ≤ b := of_decide_eq_true within
    by_cases full : n ≤ ((log.take n).filter fun x => key x ≤ b).length
    · -- a full page that reaches the key leaves nothing below it
      cases end_ : (log.take n).getLast? with
      | none =>
          have empty := List.getLast?_eq_none_iff.mp end_
          rw [empty] at full
          exact absurd full (Nat.not_le_of_lt pos)
      | some last =>
          have behind := apart last (List.mem_of_getLast? end_) x mem
          exact absurd (behind.trans_le upTo) (not_lt_of_ge (reaches full last end_))
    · -- some entry of the page is above the key, and so is what follows
      refine full ?_
      have all : ((log.take n).filter fun x => key x ≤ b) = log.take n := by
        refine List.filter_eq_self.mpr fun y inPage => decide_eq_true ?_
        exact (apart y inPage x mem).le.trans upTo
      rw [all, List.length_take]
      refine le_min le_rfl (le_of_lt ?_)
      exact List.length_lt_of_drop_ne_nil (List.ne_nil_of_mem mem)
  rw [none, List.append_nil]

/-- The next entry of the log extends a window. -/
theorem window_append_next (ascending : Ascending key log) {x : α} (mem : x ∈ log) (lower : a ≤ b)
    (after : b < key x) (next : ∀ y ∈ log, b < key y → key x ≤ key y) :
    window key log a b ++ [x] = window key log a (key x) := by
  have single : window key log b (key x) = [x] := by
    induction log with
    | nil => cases mem
    | cons y rest ih =>
        obtain ⟨above, ascending⟩ := List.pairwise_cons.mp ascending
        rcases List.mem_cons.mp mem with rfl | mem
        · have empty : rest.filter (fun y => b < key y ∧ key y ≤ key x) = [] := by
            refine List.filter_eq_nil_iff.mpr fun y mem within => ?_
            exact absurd (above y mem) (not_lt_of_ge (of_decide_eq_true within).2)
          simp only [window, List.filter_cons, after, le_refl, and_self, decide_true, if_true, empty]
        · have low : ¬ b < key y := fun high =>
            absurd (above x mem) (not_lt_of_ge (next y (.head _) high))
          have tail := ih ascending mem fun z inRest => next z (.tail _ inRest)
          simpa only [window, List.filter_cons, low, false_and, decide_false, Bool.false_eq_true,
            if_false] using tail
  rw [← single]
  exact window_append_window ascending lower after.le

end OrderedLog

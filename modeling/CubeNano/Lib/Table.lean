import Mathlib.Data.List.Nodup
import Mathlib.Data.List.Basic
import Mathlib.Logic.Function.Basic

/-!
# Tables with a primary key

A `Table κ ρ` is a finite list of rows whose keys are pairwise distinct, in
insertion order: a SQL table with a primary key, or an insertion-ordered
dictionary.  Distinctness is a field, so no operation has to re-establish it at
its call sites.

Every operation has one lookup equation (`find?_insert`, `find?_set`,
`find?_update`, `find?_erase`, `find?_mapRows`).  Clients reason with these and
never open the row list.
-/

universe u v

/-- A finite table with a primary key. -/
structure Table (κ : Type u) (ρ : Type v) where
  /-- The rows in insertion order. -/
  rows : List (κ × ρ)
  /-- No two rows share a key. -/
  nodup : (rows.map Prod.fst).Nodup

namespace Table

variable {κ : Type u} {ρ : Type v}

@[ext] theorem ext {s t : Table κ ρ} (h : s.rows = t.rows) : s = t := by
  cases s; cases t; cases h; rfl

/-- The table without rows. -/
def empty : Table κ ρ := ⟨[], by simp⟩

instance : Inhabited (Table κ ρ) := ⟨empty⟩

variable [DecidableEq κ]

instance [DecidableEq ρ] : DecidableEq (Table κ ρ) := fun s t =>
  decidable_of_iff (s.rows = t.rows) ⟨ext, fun h => h ▸ rfl⟩

/-- The row stored under a key. -/
def find? (t : Table κ ρ) (k : κ) : Option ρ := t.rows.lookup k

/-- Rewrite every row, keeping its key. -/
def mapRows (t : Table κ ρ) (f : κ → ρ → ρ) : Table κ ρ where
  rows := t.rows.map fun row => (row.1, f row.1 row.2)
  nodup := by simpa [List.map_map, Function.comp_def] using t.nodup

/-- Rewrite the row stored under `k`, if there is one. -/
def update (t : Table κ ρ) (k : κ) (f : ρ → ρ) : Table κ ρ :=
  t.mapRows fun k' r => if k' = k then f r else r

/-- Delete the row stored under `k`, if there is one. -/
def erase (t : Table κ ρ) (k : κ) : Table κ ρ where
  rows := t.rows.filter fun row => row.1 ≠ k
  nodup := t.nodup.sublist (List.filter_sublist.map _)

/-- Keep the rows that satisfy a condition. -/
def filter (t : Table κ ρ) (p : κ → ρ → Bool) : Table κ ρ where
  rows := t.rows.filter fun row => p row.1 row.2
  nodup := t.nodup.sublist (List.filter_sublist.map _)

theorem lookup_eq_none_iff {rows : List (κ × ρ)} {k : κ} :
    rows.lookup k = none ↔ k ∉ rows.map Prod.fst := by
  rw [List.lookup_eq_none_iff]
  simp only [bne_iff_ne, List.mem_map, not_exists, not_and, Ne]
  exact ⟨fun h row mem eq => h row mem eq.symm, fun h row mem eq => h row mem eq.symm⟩

theorem find?_eq_none_iff {t : Table κ ρ} {k : κ} :
    t.find? k = none ↔ k ∉ t.rows.map Prod.fst := lookup_eq_none_iff

/-- Append a row under a key that is not stored. -/
def append (t : Table κ ρ) (k : κ) (r : ρ) (fresh : t.find? k = none) : Table κ ρ where
  rows := t.rows ++ [(k, r)]
  nodup := by
    rw [List.map_append, List.nodup_append]
    refine ⟨t.nodup, by simp, ?_⟩
    intro a ha b hb
    simp only [List.map_cons, List.map_nil, List.mem_singleton] at hb
    rintro rfl
    exact find?_eq_none_iff.mp fresh (hb ▸ ha)

/-- SQL `INSERT`: `none` is the primary-key violation. -/
def insert (t : Table κ ρ) (k : κ) (r : ρ) : Option (Table κ ρ) :=
  if fresh : t.find? k = none then some (t.append k r fresh) else none

/-- Dictionary assignment: replace the row under `k`, or append it. -/
def set (t : Table κ ρ) (k : κ) (r : ρ) : Table κ ρ :=
  if fresh : t.find? k = none then t.append k r fresh else t.update k fun _ => r

/-! ## Lookup equations -/

@[simp] theorem find?_empty (k : κ) : (empty : Table κ ρ).find? k = none := rfl

theorem lookup_append_of_none {rows rows' : List (κ × ρ)} {k : κ} :
    (rows ++ rows').lookup k = (rows.lookup k).or (rows'.lookup k) := by
  rw [List.lookup_append]

theorem find?_append (t : Table κ ρ) (k k' : κ) (r : ρ) (fresh : t.find? k = none) :
    (t.append k r fresh).find? k' = if k' = k then some r else t.find? k' := by
  change (t.rows ++ [(k, r)]).lookup k' = _
  rw [lookup_append_of_none]
  by_cases same : k' = k
  · subst same
    have missing : t.rows.lookup k' = none := fresh
    simp [missing]
  · have differs : (k' == k) = false := by simpa using same
    simp [find?, List.lookup_cons, differs, same]

theorem find?_mapRows (t : Table κ ρ) (f : κ → ρ → ρ) (k : κ) :
    (t.mapRows f).find? k = (t.find? k).map (f k) := by
  change (t.rows.map fun row => (row.1, f row.1 row.2)).lookup k = (t.rows.lookup k).map (f k)
  induction t.rows with
  | nil => rfl
  | cons row rest ih =>
      obtain ⟨key, value⟩ := row
      by_cases same : k = key
      · subst same
        simp
      · have differs : (k == key) = false := by simpa using same
        simpa [List.lookup_cons, differs] using ih

theorem find?_update (t : Table κ ρ) (k k' : κ) (f : ρ → ρ) :
    (t.update k f).find? k' = if k' = k then (t.find? k').map f else t.find? k' := by
  rw [update, find?_mapRows]
  by_cases same : k' = k
  · simp [same]
  · simp [same]

theorem find?_set (t : Table κ ρ) (k k' : κ) (r : ρ) :
    (t.set k r).find? k' = if k' = k then some r else t.find? k' := by
  unfold set
  split
  · exact find?_append t k k' r _
  · rename_i stored
    rw [find?_update]
    by_cases same : k' = k
    · subst same
      obtain ⟨old, hold⟩ := Option.ne_none_iff_exists'.mp stored
      simp [hold]
    · simp [same]

@[simp] theorem find?_set_self (t : Table κ ρ) (k : κ) (r : ρ) :
    (t.set k r).find? k = some r := by
  rw [find?_set, if_pos rfl]

theorem find?_set_of_ne (t : Table κ ρ) {k k' : κ} (r : ρ) (h : k' ≠ k) :
    (t.set k r).find? k' = t.find? k' := by
  rw [find?_set, if_neg h]

theorem find?_filter_of_forall (t : Table κ ρ) (p : κ → ρ → Bool) (k : κ)
    (keep : ∀ r, p k r = true) : (t.filter p).find? k = t.find? k := by
  change (t.rows.filter fun row => p row.1 row.2).lookup k = t.rows.lookup k
  induction t.rows with
  | nil => rfl
  | cons row rest ih =>
      obtain ⟨key, value⟩ := row
      by_cases same : k = key
      · subst same
        simp [keep]
      · have differs : (k == key) = false := by simpa using same
        by_cases kept : p key value = true
        · simpa [List.filter_cons, kept, List.lookup_cons, differs] using ih
        · simpa [List.filter_cons, kept, List.lookup_cons, differs] using ih

theorem find?_erase (t : Table κ ρ) (k k' : κ) :
    (t.erase k).find? k' = if k' = k then none else t.find? k' := by
  by_cases same : k' = k
  · subst same
    rw [if_pos rfl, find?_eq_none_iff]
    simp [erase]
  · rw [if_neg same]
    exact find?_filter_of_forall t (fun key _ => decide (key ≠ k)) k' (fun _ => by simpa using same)

/-! ## Insertion -/

theorem insert_eq_none_iff {t : Table κ ρ} {k : κ} {r : ρ} :
    t.insert k r = none ↔ t.find? k ≠ none := by
  unfold insert
  split <;> simp_all

theorem insert_of_fresh {t : Table κ ρ} {k : κ} (r : ρ) (fresh : t.find? k = none) :
    t.insert k r = some (t.append k r fresh) := by
  rw [insert, dif_pos fresh]

theorem insert_of_stored {t : Table κ ρ} {k : κ} {old : ρ} (r : ρ) (stored : t.find? k = some old) :
    t.insert k r = none := by
  rw [insert_eq_none_iff, stored]
  exact Option.some_ne_none old

theorem find?_insert {t t' : Table κ ρ} {k : κ} {r : ρ} (h : t.insert k r = some t') (k' : κ) :
    t'.find? k' = if k' = k then some r else t.find? k' := by
  unfold insert at h
  split at h
  · rename_i fresh
    cases h
    exact find?_append t k k' r fresh
  · cases h

theorem fresh_of_insert {t t' : Table κ ρ} {k : κ} {r : ρ} (h : t.insert k r = some t') :
    t.find? k = none := by
  unfold insert at h
  split at h
  · assumption
  · cases h

/-- A stored row is a member of the row list, and conversely. -/
theorem mem_rows_iff {t : Table κ ρ} {k : κ} {r : ρ} :
    (k, r) ∈ t.rows ↔ t.find? k = some r := by
  obtain ⟨rows, nodup⟩ := t
  change (k, r) ∈ rows ↔ rows.lookup k = some r
  induction rows with
  | nil => simp
  | cons row rest ih =>
      obtain ⟨key, value⟩ := row
      rw [List.map_cons, List.nodup_cons] at nodup
      by_cases same : k = key
      · subst same
        have absent : (k, r) ∉ rest := fun mem =>
          nodup.1 (List.mem_map.mpr ⟨_, mem, rfl⟩)
        simp [absent, eq_comm]
      · have differs : (k == key) = false := by simpa using same
        simp only [List.mem_cons, Prod.mk.injEq, same, false_and, false_or, List.lookup_cons,
          differs]
        exact ih nodup.2

/-- A filtered table stores the rows that satisfy the condition. -/
theorem find?_filter (t : Table κ ρ) (p : κ → ρ → Bool) (k : κ) :
    (t.filter p).find? k = (t.find? k).filter (p k) := by
  refine Option.ext fun r => ?_
  rw [← mem_rows_iff, Option.filter_eq_some_iff, ← mem_rows_iff]
  exact List.mem_filter

/-- Assigning the stored row changes nothing. -/
theorem set_of_stored {t : Table κ ρ} {k : κ} {r : ρ} (stored : t.find? k = some r) :
    t.set k r = t := by
  have present : t.find? k ≠ none := by
    rw [stored]
    exact Option.some_ne_none r
  rw [set, dif_neg present]
  refine ext ?_
  change (t.rows.map fun row => (row.1, if row.1 = k then r else row.2)) = t.rows
  refine (List.map_congr_left fun row mem => ?_).trans (List.map_id _)
  split
  · rename_i same
    have here : t.find? row.1 = some row.2 := mem_rows_iff.mp mem
    rw [same, stored] at here
    rw [Option.some.inj here]
    rfl
  · rfl

/-- A rewriting that fixes the stored row changes nothing. -/
theorem update_of_fixed {t : Table κ ρ} {k : κ} {f : ρ → ρ}
    (fixed : ∀ r, t.find? k = some r → f r = r) : t.update k f = t := by
  refine ext ?_
  change (t.rows.map fun row => (row.1, if row.1 = k then f row.2 else row.2)) = t.rows
  refine (List.map_congr_left fun row mem => ?_).trans (List.map_id _)
  split
  · rename_i same
    have here : t.find? k = some row.2 := by
      rw [← same]
      exact mem_rows_iff.mp mem
    rw [fixed row.2 here]
    rfl
  · rfl

/-- Exactly one row is stored under a stored key. -/
theorem filter_key_eq_singleton {t : Table κ ρ} {k : κ} {r : ρ} (found : t.find? k = some r) :
    t.rows.filter (fun row => row.1 = k) = [(k, r)] := by
  obtain ⟨rows, nodup⟩ := t
  change rows.lookup k = some r at found
  change rows.filter (fun row => row.1 = k) = [(k, r)]
  induction rows with
  | nil => cases found
  | cons row rest ih =>
      obtain ⟨key, value⟩ := row
      rw [List.map_cons, List.nodup_cons] at nodup
      by_cases same : key = k
      · subst same
        rw [List.lookup_cons_self] at found
        cases found
        have others : rest.filter (fun row => row.1 = key) = [] := by
          rw [List.filter_eq_nil_iff]
          intro row mem equal
          exact nodup.1 (List.mem_map.mpr ⟨row, mem, of_decide_eq_true equal⟩)
        rw [List.filter_cons, if_pos (by simp), others]
      · have differs : (k == key) = false := by simpa using Ne.symm same
        rw [List.lookup_cons, differs] at found
        rw [List.filter_cons, if_neg (by simpa using same)]
        exact ih nodup.2 found

/-! ## Row lists -/

/-- A row under a new key comes last. -/
theorem rows_set_of_fresh {t : Table κ ρ} {k : κ} (fresh : t.find? k = none) (r : ρ) :
    (t.set k r).rows = t.rows ++ [(k, r)] := by
  rw [set, dif_pos fresh]
  rfl

theorem length_set_of_stored {t : Table κ ρ} {k : κ} {old : ρ} (stored : t.find? k = some old)
    (r : ρ) : (t.set k r).rows.length = t.rows.length := by
  have present : t.find? k ≠ none := by
    rw [stored]
    exact Option.some_ne_none old
  rw [set, dif_neg present]
  exact List.length_map _

/-- A stored row, and the rows that are left without it. -/
theorem perm_erase {t : Table κ ρ} {k : κ} {r : ρ} (stored : t.find? k = some r) :
    t.rows.Perm ((k, r) :: (t.erase k).rows) := by
  have split := List.filter_append_perm (fun row : κ × ρ => decide (row.1 = k)) t.rows
  rw [filter_key_eq_singleton stored] at split
  have others : t.rows.filter (fun row => !decide (row.1 = k)) = (t.erase k).rows :=
    List.filter_congr fun row _ => by simp
  rw [others] at split
  exact split.symm

end Table

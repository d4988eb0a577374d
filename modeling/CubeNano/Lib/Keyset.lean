import CubeNano.Lib.SortByKey

/-!
# Pages after a key

A list is read in pages of at most `limit` items, ordered by a key; the cursor of the next
page is the key of the last item of a full one, and the next page has only larger keys.  The
order of items with one key is the store's choice, and may be another one for each page.

Several items may share a key.  Where a page ends on one of them, the next page starts after
all of them.

## Main definitions

* `KeyOrder`, `KeyOrder.page`, `nextCursor`, `KeyOrder.Pages`
* `EndsBetween` — no page ends inside a group of equal keys

## Main statements

* `KeyOrder.Pages.perm_iff` — the pages have every item once exactly when `EndsBetween` holds
-/

namespace CubeNano

universe u v

variable {α : Type u} {κ : Type v} [LinearOrder κ] {key : α → κ}

/-- An order by a key, with a choice of the order of equal keys for each cursor. -/
structure KeyOrder (key : α → κ) where
  arrange : Option κ → List α → List α
  perm : ∀ cursor items, (arrange cursor items).Perm items
  ascending : ∀ cursor items, (arrange cursor items).Pairwise fun a b => key a ≤ key b

/-- The items after a cursor. -/
def beyond (key : α → κ) (cursor : Option κ) (a : α) : Bool := cursor.all fun c => c < key a

/-- The key of the last item of a full page. -/
def nextCursor (key : α → κ) (limit : ℕ) (page : List α) : Option κ :=
  if page.length = limit then page.getLast?.map key else none

namespace KeyOrder

/-- The order that keeps equal keys as they come. -/
def sorted (key : α → κ) : KeyOrder key where
  arrange _ items := sortByKey key items
  perm _ items := sortByKey_perm key items
  ascending _ items := pairwise_sortByKey key items

/-- The page after a cursor. -/
def page (order : KeyOrder key) (items : List α) (limit : ℕ) (cursor : Option κ) : List α :=
  (order.arrange cursor (items.filter (beyond key cursor))).take limit

/-- The items of all pages from a cursor on. -/
inductive Pages (order : KeyOrder key) (items : List α) (limit : ℕ) : Option κ → List α → Prop
  | last {cursor : Option κ} (ends : nextCursor key limit (order.page items limit cursor) = none) :
      Pages order items limit cursor (order.page items limit cursor)
  | next {cursor : Option κ} {c : κ} {rest : List α}
      (goesOn : nextCursor key limit (order.page items limit cursor) = some c)
      (pages : Pages order items limit (some c) rest) :
      Pages order items limit cursor (order.page items limit cursor ++ rest)

end KeyOrder

/-- No page of `limit` items ends between two equal keys. -/
def EndsBetween (limit : ℕ) (keys : List κ) : Prop :=
  ∀ n, 0 < n → ∀ k k', keys[n * limit - 1]? = some k → keys[n * limit]? = some k' → k ≠ k'

/-! ## Page ends -/

omit [LinearOrder κ] in
theorem endsBetween_of_length_lt {limit : ℕ} {keys : List κ} (few : keys.length < limit) :
    EndsBetween limit keys := by
  intro n positive k k' _ here
  have bound := (List.getElem?_eq_some_iff.mp here).1
  have : limit ≤ n * limit := Nat.le_mul_of_pos_left limit positive
  omega

omit [LinearOrder κ] in
/-- After one page, the ends of the pages are those of the rest. -/
theorem endsBetween_append {first rest : List κ} (nonempty : first ≠ []) :
    EndsBetween first.length (first ++ rest) ↔
      (∀ k k', first.getLast? = some k → rest.head? = some k' → k ≠ k') ∧
        EndsBetween first.length rest := by
  have positive : 0 < first.length := List.length_pos_of_ne_nil nonempty
  -- the end of the page with number `n + 1`
  have shifted : ∀ n, 0 < n →
      (first ++ rest)[(n + 1) * first.length - 1]? = rest[n * first.length - 1]? ∧
        (first ++ rest)[(n + 1) * first.length]? = rest[n * first.length]? := by
    intro n pos
    have : first.length ≤ n * first.length := Nat.le_mul_of_pos_left _ pos
    rw [Nat.succ_mul]
    constructor
    · rw [List.getElem?_append_right (by omega)]
      congr 1
      omega
    · rw [List.getElem?_append_right (by omega)]
      congr 1
      omega
  have one : (first ++ rest)[1 * first.length - 1]? = first.getLast? ∧
      (first ++ rest)[1 * first.length]? = rest.head? := by
    rw [Nat.one_mul, List.getElem?_append_left (by omega), List.getLast?_eq_getElem?,
      List.getElem?_append_right (Nat.le_refl _), Nat.sub_self, List.head?_eq_getElem?]
    exact ⟨rfl, rfl⟩
  constructor
  · intro ends
    refine ⟨fun k k' atLast atHead => ?_, fun n pos k k' before after => ?_⟩
    · exact ends 1 Nat.one_pos k k' (one.1.trans atLast) (one.2.trans atHead)
    · obtain ⟨same, same'⟩ := shifted n pos
      exact ends (n + 1) (Nat.succ_pos n) k k' (same.trans before) (same'.trans after)
  · rintro ⟨atEnd, ends⟩ n pos k k' before after
    obtain ⟨m, rfl⟩ : ∃ m, n = m + 1 := ⟨n - 1, by omega⟩
    rcases Nat.eq_zero_or_pos m with rfl | pos
    · exact atEnd k k' (one.1.symm.trans before) (one.2.symm.trans after)
    · obtain ⟨same, same'⟩ := shifted m pos
      exact ends m pos k k' (same.symm.trans before) (same'.symm.trans after)

/-- Ascending lists with the same keys have them in one order. -/
theorem map_eq_of_ascending {items items' : List α} (perm : items.Perm items')
    (ascending : items.Pairwise fun a b => key a ≤ key b)
    (ascending' : items'.Pairwise fun a b => key a ≤ key b) : items.map key = items'.map key := by
  refine List.Perm.eq_of_pairwise (fun a b _ _ => le_antisymm) ?_ ?_ (perm.map key)
  · exact List.pairwise_map.mpr ascending
  · exact List.pairwise_map.mpr ascending'

/-! ## The pages -/

variable {order : KeyOrder key} {items : List α} {limit : ℕ}

/-- The items after a larger cursor. -/
theorem filter_beyond_some {cursor : Option κ} {c : κ} (after : ∀ k, cursor = some k → k < c)
    (items : List α) : (items.filter (beyond key cursor)).filter (beyond key (some c)) =
      items.filter (beyond key (some c)) := by
  rw [List.filter_filter]
  refine List.filter_congr fun a _ => ?_
  cases cursor with
  | none => simp [beyond]
  | some k =>
      have below := after k rfl
      simp only [beyond, Option.all_some, Bool.and_eq_left_iff_imp, decide_eq_true_eq]
      exact fun beyond => lt_trans below beyond

/-- A page with a cursor is the start of the items, and its last key is the cursor. -/
theorem KeyOrder.page_of_nextCursor {cursor : Option κ} {c : κ}
    (goesOn : nextCursor key limit (order.page items limit cursor) = some c) :
    ∃ rest, order.arrange cursor (items.filter (beyond key cursor)) =
        order.page items limit cursor ++ rest ∧
      (order.page items limit cursor).length = limit ∧
      ∃ a, (order.page items limit cursor).getLast? = some a ∧ key a = c := by
  unfold nextCursor at goesOn
  split at goesOn
  · rename_i full
    obtain ⟨a, last, ofKey⟩ := Option.map_eq_some_iff.mp goesOn
    exact ⟨_, (List.take_append_drop limit _).symm, full, a, last, ofKey⟩
  · cases goesOn

/-- A page without a cursor has all items that are left. -/
theorem KeyOrder.page_of_nextCursor_none (positive : 0 < limit) {cursor : Option κ}
    (ends : nextCursor key limit (order.page items limit cursor) = none) :
    order.page items limit cursor = order.arrange cursor (items.filter (beyond key cursor)) ∧
      (order.page items limit cursor).length < limit := by
  have partialPage : (order.page items limit cursor).length ≠ limit := by
    intro full
    rw [nextCursor, if_pos full, Option.map_eq_none_iff, List.getLast?_eq_none_iff] at ends
    rw [ends] at full
    exact absurd full (Nat.ne_of_lt positive)
  have bound : (order.page items limit cursor).length ≤ limit := List.length_take_le ..
  have few : (order.page items limit cursor).length < limit := by omega
  refine ⟨List.take_of_length_le ?_, few⟩
  rw [KeyOrder.page, List.length_take] at few
  omega

/-- The larger keys come after a page. -/
theorem filter_beyond_append {first rest : List α} {a : α}
    (ascending : (first ++ rest).Pairwise fun a b => key a ≤ key b)
    (last : first.getLast? = some a) :
    (first ++ rest).filter (beyond key (some (key a))) =
      rest.filter (beyond key (some (key a))) := by
  obtain ⟨init, rfl⟩ := List.getLast?_eq_some_iff.mp last
  rw [List.filter_append, List.filter_eq_nil_iff.mpr, List.nil_append]
  intro b mem
  have small : key b ≤ key a := by
    rcases List.mem_append.mp mem with mem | mem
    · exact (List.pairwise_append.mp (List.pairwise_append.mp ascending).1).2.2 b mem a
        (List.mem_singleton_self a)
    · rw [List.mem_singleton.mp mem]
  simpa [beyond] using small

/-- All that is left has larger keys exactly when its first key is larger. -/
theorem filter_beyond_eq_self_iff {rest : List α} {k : κ}
    (ascending : rest.Pairwise fun a b => key a ≤ key b) (above : ∀ a ∈ rest, k ≤ key a) :
    rest.filter (beyond key (some k)) = rest ↔
      ∀ k', (rest.map key).head? = some k' → k ≠ k' := by
  rw [List.filter_eq_self]
  cases rest with
  | nil => simp
  | cons a rest =>
      have first := above a List.mem_cons_self
      simp only [beyond, Option.all_some, decide_eq_true_eq, List.map_cons, List.head?_cons,
        Option.some.injEq, forall_eq', List.mem_cons, forall_eq_or_imp]
      constructor
      · exact fun larger => ne_of_lt larger.1
      · intro different
        have larger := lt_of_le_of_ne first different
        exact ⟨larger, fun b mem => lt_of_lt_of_le larger
          ((List.pairwise_cons.mp ascending).1 b mem)⟩

/-- What a page with a cursor leaves, and what the next pages read of it. -/
theorem KeyOrder.next_page {cursor : Option κ} {c : κ}
    (goesOn : nextCursor key limit (order.page items limit cursor) = some c) :
    ∃ rest, order.arrange cursor (items.filter (beyond key cursor)) =
        order.page items limit cursor ++ rest ∧
      (order.page items limit cursor).length = limit ∧
      ((order.page items limit cursor).map key).getLast? = some c ∧
      (items.filter (beyond key (some c))).Perm (rest.filter (beyond key (some c))) := by
  obtain ⟨rest, arranged, full, a, last, rfl⟩ := page_of_nextCursor goesOn
  have perm := order.perm cursor (items.filter (beyond key cursor))
  have ascending := order.ascending cursor (items.filter (beyond key cursor))
  rw [arranged] at perm ascending
  refine ⟨rest, arranged, full, by rw [List.getLast?_map, last, Option.map_some], ?_⟩
  have after : ∀ k, cursor = some k → k < key a := by
    rintro k rfl
    have mem := perm.mem_iff.mp (List.mem_append_left rest (List.mem_of_getLast? last))
    simpa [beyond] using (List.mem_filter.mp mem).2
  rw [← filter_beyond_some after, ← filter_beyond_append ascending last]
  exact (perm.filter _).symm

/-- The pages repeat no item. -/
theorem KeyOrder.Pages.subperm (positive : 0 < limit) {cursor : Option κ} {listed : List α}
    (pages : order.Pages items limit cursor listed) :
    listed.Subperm (items.filter (beyond key cursor)) := by
  induction pages with
  | last ends =>
      rw [(page_of_nextCursor_none positive ends).1]
      exact (order.perm _ _).subperm
  | @next cursor c listed goesOn pages ih =>
      obtain ⟨rest, arranged, -, -, after⟩ := next_page goesOn
      have perm := order.perm cursor (items.filter (beyond key cursor))
      rw [arranged] at perm
      have within : listed.Subperm rest :=
        ih.trans (after.subperm.trans List.filter_sublist.subperm)
      exact ((List.subperm_append_left _).mpr within).trans perm.subperm

/-- **Pages.**  They have every item exactly once when, and only when, none of them ends
between items of one key. -/
theorem KeyOrder.Pages.perm_iff (positive : 0 < limit) {cursor : Option κ} {listed : List α}
    (pages : order.Pages items limit cursor listed) :
    listed.Perm (items.filter (beyond key cursor)) ↔
      EndsBetween limit ((sortByKey key (items.filter (beyond key cursor))).map key) := by
  induction pages with
  | @last cursor ends =>
      obtain ⟨all, few⟩ := page_of_nextCursor_none positive ends
      have perm := order.perm cursor (items.filter (beyond key cursor))
      rw [← all] at perm
      refine iff_of_true perm (endsBetween_of_length_lt ?_)
      rw [List.length_map, length_sortByKey, ← perm.length_eq]
      exact few
  | @next cursor c listed goesOn pages ih =>
      obtain ⟨rest, arranged, full, last, after⟩ := next_page goesOn
      have perm := order.perm cursor (items.filter (beyond key cursor))
      have ascending := order.ascending cursor (items.filter (beyond key cursor))
      have keys := map_eq_of_ascending ((sortByKey_perm key _).trans perm.symm)
        (pairwise_sortByKey key _) ascending
      rw [arranged] at perm ascending keys
      obtain ⟨-, ascendingRest, above⟩ := List.pairwise_append.mp ascending
      have aboveCursor : ∀ a ∈ rest, c ≤ key a := by
        intro a mem
        rw [List.getLast?_map] at last
        obtain ⟨b, atEnd, rfl⟩ := Option.map_eq_some_iff.mp last
        exact above b (List.mem_of_getLast? atEnd) a mem
      have nonempty : (order.page items limit cursor).map key ≠ [] := by
        rintro none
        rw [none] at last
        cases last
      -- the first page ends well when the rest has larger keys only
      have split := @endsBetween_append _ _ (rest.map key) nonempty
      rw [List.length_map, full, ← List.map_append, ← keys] at split
      rw [split, last, ← perm.congr_right, List.perm_append_left_iff]
      have larger := filter_beyond_eq_self_iff ascendingRest aboveCursor
      have sameKeys : rest.filter (beyond key (some c)) = rest →
          (sortByKey key (items.filter (beyond key (some c)))).map key = rest.map key := by
        intro all
        rw [all] at after
        exact map_eq_of_ascending ((sortByKey_perm key _).trans after) (pairwise_sortByKey key _)
          ascendingRest
      constructor
      · intro complete
        have all : rest.filter (beyond key (some c)) = rest := by
          refine List.filter_sublist.eq_of_length_le ?_
          rw [← complete.length_eq, ← after.length_eq]
          exact (pages.subperm positive).length_le
        refine ⟨fun k k' atEnd => ?_, ?_⟩
        · cases atEnd
          exact larger.mp all k'
        · rw [← sameKeys all]
          refine ih.mp (complete.trans ?_)
          rw [all] at after
          exact after.symm
      · rintro ⟨atEnd, ends⟩
        have all := larger.mpr fun k' => atEnd c k' rfl
        rw [← sameKeys all] at ends
        rw [all] at after
        exact (ih.mpr ends).trans after

end CubeNano

import CubeNano.Web.TileCache
import Mathlib.Data.List.Perm.Basic
import Mathlib.Tactic.Linarith

/-!
# Runs of the tile cache

The object URLs of a cache are in its entries or revoked, each in one place, and its byte count is
that of its entries.  A promise that is not settled waits in an array that a running fetch has
taken or that is pending under a queued key.

## Main definitions

* `TileCache.Owned` — the entries, the URLs and the byte count
* `TileCache.Waiting` — the promises, the queue and the fetches
* `TileCache.Orderly` — the steps that keep both

## Main statements

* `TileCache.owned_evict`, `TileCache.mem_evict` — what eviction leaves
* `TileCache.waiting_pump` — the queue after `pump`
* `tileCache_right` — what is expected, after every run of orderly steps
* `tileCache_not_right` — a key that is loaded again while its canceled fetch is running
-/

namespace CubeNano.Web

namespace TileCache

variable {options : TileCacheOptions} {s s' : TileCache}

/-! ## Entries -/

/-- Every object URL is in one entry or revoked once, and the bytes are those of the entries. -/
structure Owned (s : TileCache) : Prop where
  perm : (s.urls ++ s.revoked).Perm (List.range s.created)
  bytes_eq : s.bytes = s.entryBytes

/-- A step that concerns neither entries nor URLs. -/
theorem Owned.of_same (owned : Owned s) (entries : s'.entries = s.entries)
    (bytes : s'.bytes = s.bytes) (revoked : s'.revoked = s.revoked)
    (created : s'.created = s.created) : Owned s' := by
  constructor
  · rw [urls, entries, revoked, created]
    exact owned.perm
  · rw [entryBytes, bytes, entries]
    exact owned.bytes_eq

/-- The URL of an entry is not revoked. -/
theorem Owned.not_revoked (owned : Owned s) {key : String} {entry : TileEntry}
    (stored : s.entries.find? key = some entry) : entry.url ∉ s.revoked := by
  have nodup := owned.perm.nodup_iff.mpr List.nodup_range
  have cached : entry.url ∈ s.urls := List.mem_map.mpr ⟨_, Table.mem_rows_iff.mpr stored, rfl⟩
  exact List.disjoint_of_nodup_append nodup cached

theorem Owned.owned (owned : Owned s) {url : ℕ} (created : url < s.created) :
    url ∈ s.urls ∨ url ∈ s.revoked :=
  List.mem_append.mp (owned.perm.mem_iff.mpr (List.mem_range.mpr created))

theorem oldest_mem {rows : List (String × TileEntry)} {row : String × TileEntry}
    (first : oldest rows = some row) : row ∈ rows := by
  induction rows generalizing row with
  | nil => exact nomatch first
  | cons r rest ih =>
      unfold oldest at first
      cases other : oldest rest with
      | none =>
          rw [other] at first
          cases first
          exact List.mem_cons_self
      | some o =>
          rw [other] at first
          dsimp only at first
          split at first
          · cases first
            exact List.mem_cons_self
          · cases first
            exact List.mem_cons_of_mem _ (ih other)

theorem oldest_eq_none_iff {rows : List (String × TileEntry)} :
    oldest rows = none ↔ rows = [] := by
  cases rows with
  | nil => exact ⟨fun _ => rfl, fun _ => rfl⟩
  | cons r rest =>
      refine ⟨fun none => ?_, nofun⟩
      unfold oldest at none
      split at none
      · cases none
      · split at none <;> cases none

/-- The entry that was used last is not the first to go. -/
theorem oldest_append {before : List (String × TileEntry)} (nonempty : before ≠ [])
    {last : String × TileEntry} (latest : ∀ row ∈ before, row.2.lastUsed ≤ last.2.lastUsed) :
    ∃ row ∈ before, oldest (before ++ [last]) = some row := by
  induction before with
  | nil => exact absurd rfl nonempty
  | cons r rest ih =>
      obtain ⟨first, later⟩ := List.forall_mem_cons.mp latest
      rw [List.cons_append, oldest]
      by_cases none : rest = []
      · subst none
        refine ⟨r, List.mem_cons_self, ?_⟩
        exact if_pos first
      · obtain ⟨row, mem, found⟩ := ih none later
        rw [found]
        dsimp only
        split
        · exact ⟨r, List.mem_cons_self, rfl⟩
        · exact ⟨row, List.mem_cons_of_mem _ mem, rfl⟩

/-- One round of eviction. -/
theorem Owned.erase (owned : Owned s) {key : String} {entry : TileEntry}
    (stored : s.entries.find? key = some entry) :
    Owned { s with
      revoked := entry.url :: s.revoked
      entries := s.entries.erase key
      bytes := s.bytes - entry.bytes } := by
  have rows := Table.perm_erase stored
  constructor
  · refine List.Perm.trans ?_ owned.perm
    have urls := rows.map fun row : String × TileEntry => row.2.url
    exact List.perm_middle.trans (urls.symm.append_right s.revoked)
  · have total := (rows.map fun row => (row.2.bytes : ℤ)).sum_eq
    rw [List.map_cons, List.sum_cons] at total
    change s.bytes - entry.bytes = _
    rw [owned.bytes_eq, entryBytes, total]
    exact add_sub_cancel_left _ _

/-- **What eviction leaves**: fewer entries, within the limit. -/
theorem owned_evictRounds {fuel : ℕ} (owned : Owned s) (enough : s.entries.rows.length ≤ fuel) :
    Owned (evictRounds options fuel s) ∧ (evictRounds options fuel s).bytes ≤ options.maxBytes := by
  have empty {s : TileCache} (owned : Owned s) (none : s.entries.rows = []) :
      s.bytes ≤ options.maxBytes := by
    rw [owned.bytes_eq, entryBytes, none]
    exact Int.natCast_nonneg _
  induction fuel generalizing s with
  | zero =>
      exact ⟨owned, empty owned (List.length_eq_zero_iff.mp (Nat.le_zero.mp enough))⟩
  | succ fuel ih =>
      unfold evictRounds
      split
      · split
        · rename_i none
          exact ⟨owned, empty owned (oldest_eq_none_iff.mp none)⟩
        · rename_i key entry first
          have stored := Table.mem_rows_iff.mp (oldest_mem first)
          refine ih (owned.erase stored) ?_
          have shorter := (Table.perm_erase stored).length_eq
          rw [List.length_cons] at shorter
          dsimp only
          omega
      · rename_i within
        exact ⟨owned, by omega⟩

/-- An entry that was used last, and fits alone, survives. -/
theorem mem_evictRounds {fuel : ℕ} (owned : Owned s) (room : 1 ≤ options.maxEntries)
    {before : List (String × TileEntry)} {last : String × TileEntry}
    (rows : s.entries.rows = before ++ [last]) (fits : last.2.bytes ≤ options.maxBytes)
    (latest : ∀ row ∈ before, row.2.lastUsed ≤ last.2.lastUsed) :
    last ∈ (evictRounds options fuel s).entries.rows := by
  induction fuel generalizing s before with
  | zero =>
      rw [evictRounds, rows]
      exact List.mem_append_right _ List.mem_cons_self
  | succ fuel ih =>
      unfold evictRounds
      split
      · rename_i exceeds
        by_cases alone : before = []
        · -- the last entry alone is within both limits
          subst alone
          rw [List.nil_append] at rows
          have total := owned.bytes_eq
          rw [entryBytes, rows, List.map_singleton, List.sum_singleton] at total
          rw [rows, List.length_singleton] at exceeds
          omega
        · obtain ⟨row, mem, first⟩ := oldest_append alone latest
          rw [rows, first]
          dsimp only
          have memRows : row ∈ s.entries.rows := rows ▸ List.mem_append_left _ mem
          have different : last.1 ≠ row.1 := by
            intro same
            have nodup := s.entries.nodup
            rw [rows, List.map_append] at nodup
            exact List.disjoint_of_nodup_append nodup (List.mem_map_of_mem mem)
              (same ▸ List.mem_cons_self)
          have kept : (s.entries.erase row.1).rows =
              before.filter (fun other => other.1 ≠ row.1) ++ [last] := by
            change s.entries.rows.filter (fun other => other.1 ≠ row.1) = _
            rw [rows, List.filter_append, List.filter_singleton, decide_eq_true different]
            rfl
          exact ih (owned.erase (Table.mem_rows_iff.mp memRows)) kept
            fun other memOther => latest other (List.mem_of_mem_filter memOther)
      · rw [rows]
        exact List.mem_append_right _ List.mem_cons_self

/-! ## Promises -/

theorem settleAll_eq (s : TileCache) (waiters : List ℕ) (outcome : Settled) :
    s.settleAll waiters outcome =
      { s with
        settled := fun p =>
          if p ∈ waiters then (s.settled p).or (some outcome) else s.settled p } := by
  induction waiters generalizing s with
  | nil => rfl
  | cons w rest ih =>
      rw [settleAll, List.foldl_cons]
      change (s.settle w outcome).settleAll rest outcome = _
      rw [ih, settle]
      congr 1
      funext p
      dsimp only
      by_cases here : p = w
      · subst here
        rw [if_pos rfl, if_pos List.mem_cons_self]
        split
        · rw [Option.or_assoc, Option.or_self]
        · rfl
      · rw [if_neg here]
        by_cases later : p ∈ rest
        · rw [if_pos later, if_pos (List.mem_cons_of_mem _ later)]
        · rw [if_neg later,
            if_neg fun mem => (List.mem_cons.mp mem).elim here later]

/-- An array that a fetch has taken, and not yet answered. -/
def Taken (s : TileCache) (waiters : ℕ) : Prop :=
  ∃ id fetch, s.fetches.find? id = some fetch ∧ fetch.ended = false ∧ fetch.waiters = waiters

/-- An array whose waiters will be answered: taken, or pending under a queued key. -/
def Served (queue : List String) (s : TileCache) (waiters : ℕ) : Prop :=
  s.Taken waiters ∨ ∃ key ∈ queue, s.pending.find? key = some waiters

/-- The promises, fetches and arrays of a cache, with a queue. -/
structure WaitingIn (options : TileCacheOptions) (queue : List String) (s : TileCache) :
    Prop where
  active_eq : s.active = s.fetches.rows.length
  active_le : s.active ≤ options.maxConcurrent
  named : "" ∉ queue
  newFetch : ∀ id, s.nextFetch ≤ id → s.fetches.find? id = none
  newPromise : ∀ p, s.promises ≤ p → s.settled p = none ∧ s.listener p = none
  oldWaiter : ∀ waiters, ∀ p ∈ s.arrays waiters, p < s.promises
  oldPending : ∀ key waiters, s.pending.find? key = some waiters → waiters < s.nextArray
  oldTaken : ∀ id fetch, s.fetches.find? id = some fetch → fetch.waiters < s.nextArray
  /-- An array belongs to one key. -/
  keyOf : ∀ key key' waiters, s.pending.find? key = some waiters →
    s.pending.find? key' = some waiters → key = key'
  takenKey : ∀ id fetch key, s.fetches.find? id = some fetch →
    s.pending.find? key = some fetch.waiters → key = fetch.key
  served : ∀ key waiters, s.pending.find? key = some waiters → Served queue s waiters
  waits : ∀ p < s.promises, s.settled p = none →
    ∃ waiters, p ∈ s.arrays waiters ∧ Served queue s waiters

/-- What holds between two operations: the queue waits only while all fetches run. -/
structure Waiting (options : TileCacheOptions) (s : TileCache) : Prop extends
    WaitingIn options s.queue s where
  saturated : s.queue = [] ∨ options.maxConcurrent ≤ s.active

theorem taken_startFetch (key : String) (waiters : ℕ) (fresh : s.fetches.find? s.nextFetch = none)
    {other : ℕ} (taken : s.Taken other ∨ other = waiters) :
    (s.startFetch key waiters).Taken other := by
  rcases taken with ⟨id, fetch, found, running, rfl⟩ | rfl
  · refine ⟨id, fetch, ?_, running, rfl⟩
    have different : id ≠ s.nextFetch := by
      rintro rfl
      rw [fresh] at found
      cases found
    exact (Table.find?_set_of_ne _ _ different).trans found
  · exact ⟨s.nextFetch, _, Table.find?_set_self _ _ _, rfl, rfl⟩

/-- A key of the queue that `pump` drops, or starts to fetch. -/
theorem WaitingIn.skip {key : String} {rest : List String}
    (waiting : WaitingIn options (key :: rest) s) (none : s.pending.find? key = none) :
    WaitingIn options rest s := by
  have served {waiters : ℕ} (before : Served (key :: rest) s waiters) : Served rest s waiters := by
    rcases before with taken | ⟨key', mem, found⟩
    · exact .inl taken
    · rcases List.mem_cons.mp mem with rfl | later
      · rw [none] at found
        cases found
      · exact .inr ⟨key', later, found⟩
  exact
    { waiting with
      named := fun mem => waiting.named (List.mem_cons_of_mem _ mem)
      served := fun key' waiters found => served (waiting.served key' waiters found)
      waits := fun p small open' => by
        obtain ⟨waiters, mem, before⟩ := waiting.waits p small open'
        exact ⟨waiters, mem, served before⟩ }

theorem WaitingIn.start {key : String} {rest : List String} {waiters : ℕ}
    (waiting : WaitingIn options (key :: rest) s) (room : s.active < options.maxConcurrent)
    (found : s.pending.find? key = some waiters) :
    WaitingIn options rest (s.startFetch key waiters) := by
  have fresh := waiting.newFetch s.nextFetch le_rfl
  have served {other : ℕ} (before : Served (key :: rest) s other) :
      Served rest (s.startFetch key waiters) other := by
    rcases before with taken | ⟨key', mem, pending⟩
    · exact .inl (taken_startFetch key waiters fresh (.inl taken))
    · rcases List.mem_cons.mp mem with rfl | later
      · rw [found] at pending
        exact .inl (taken_startFetch key' waiters fresh (.inr (Option.some.inj pending).symm))
      · exact .inr ⟨key', later, pending⟩
  refine
    { waiting with
      active_eq := ?_
      active_le := room
      named := fun mem => waiting.named (List.mem_cons_of_mem _ mem)
      newFetch := fun id large => ?_
      oldTaken := fun id fetch taken => ?_
      takenKey := fun id fetch key' taken pending => ?_
      served := fun key' other pending => served (waiting.served key' other pending)
      waits := fun p small open' => ?_ }
  · change s.active + 1 = (s.fetches.set s.nextFetch _).rows.length
    rw [Table.rows_set_of_fresh fresh, List.length_append, waiting.active_eq]
    rfl
  · have larger : s.nextFetch + 1 ≤ id := large
    have different : id ≠ s.nextFetch := by omega
    exact (Table.find?_set_of_ne _ _ different).trans (waiting.newFetch id (by omega))
  · change (s.fetches.set s.nextFetch _).find? id = some fetch at taken
    rw [Table.find?_set] at taken
    split at taken
    · cases taken
      exact waiting.oldPending key waiters found
    · exact waiting.oldTaken id fetch taken
  · change (s.fetches.set s.nextFetch _).find? id = some fetch at taken
    rw [Table.find?_set] at taken
    split at taken
    · cases taken
      exact waiting.keyOf key' key waiters pending found
    · exact waiting.takenKey id fetch key' taken pending
  · obtain ⟨other, mem, before⟩ := waiting.waits p small open'
    exact ⟨other, mem, served before⟩

/-- **The queue after `pump`**. -/
theorem waiting_pumpQueue {queue : List String} (waiting : WaitingIn options queue s) :
    Waiting options (pumpQueue options s queue) := by
  induction queue generalizing s with
  | nil => exact { waiting with saturated := .inl rfl }
  | cons key rest ih =>
      unfold pumpQueue
      split
      · rename_i room
        split
        · rename_i none
          exact ih (waiting.skip none)
        · rename_i waiters found
          rw [if_neg fun unnamed : key = "" => waiting.named (unnamed ▸ List.mem_cons_self)]
          exact ih (waiting.start room found)
      · rename_i full
        exact { waiting with saturated := .inr (Nat.le_of_not_lt full) }

/-! ## Frames -/

/-- `pump` moves keys from the queue to new fetches. -/
theorem pumpQueue_frame (options : TileCacheOptions) (s : TileCache) (queue : List String) :
    ∃ queue' active fetches nextFetch, pumpQueue options s queue =
      { s with queue := queue', active := active, fetches := fetches, nextFetch := nextFetch } := by
  induction queue generalizing s with
  | nil => exact ⟨_, _, _, _, rfl⟩
  | cons key rest ih =>
      unfold pumpQueue
      split
      · split
        · exact ih s
        · split
          · exact ih s
          · exact ih _
      · exact ⟨_, _, _, _, rfl⟩

/-- Eviction moves URLs from entries to the revoked ones. -/
theorem evictRounds_frame (options : TileCacheOptions) (fuel : ℕ) (s : TileCache) :
    ∃ entries revoked bytes, evictRounds options fuel s =
      { s with entries := entries, revoked := revoked, bytes := bytes } := by
  induction fuel generalizing s with
  | zero => exact ⟨_, _, _, rfl⟩
  | succ fuel ih =>
      unfold evictRounds
      split
      · split
        · exact ⟨_, _, _, rfl⟩
        · exact ih _
      · exact ⟨_, _, _, rfl⟩

/-- What is kept between two operations. -/
structure Kept (options : TileCacheOptions) (s : TileCache) : Prop where
  owned : Owned s
  bytes_le : s.bytes ≤ options.maxBytes
  waiting : Waiting options s

theorem Kept.pump (owned : Owned s) (bytes_le : s.bytes ≤ options.maxBytes)
    (waiting : WaitingIn options s.queue s) : Kept options (s.pump options) := by
  obtain ⟨queue, active, fetches, nextFetch, framed⟩ := pumpQueue_frame options s s.queue
  refine ⟨?_, ?_, waiting_pumpQueue waiting⟩
  · rw [TileCache.pump, framed]
    exact owned.of_same rfl rfl rfl rfl
  · rw [TileCache.pump, framed]
    exact bytes_le

/-! ## Operations -/

theorem kept_empty : Kept options empty where
  owned := ⟨List.Perm.refl _, rfl⟩
  bytes_le := Int.natCast_nonneg _
  waiting :=
    { active_eq := rfl
      active_le := Nat.zero_le _
      named := nofun
      newFetch := fun _ _ => rfl
      newPromise := fun _ _ => ⟨rfl, rfl⟩
      oldWaiter := nofun
      oldPending := nofun
      oldTaken := nofun
      keyOf := nofun
      takenKey := nofun
      served := nofun
      waits := nofun
      saturated := .inl rfl }

theorem Owned.touch (owned : Owned s) (key : String) (now : ℤ) : Owned (s.touch key now) := by
  have sameUrls : (s.touch key now).urls = s.urls := by
    change ((s.entries.rows.map fun row =>
      (row.1, if row.1 = key then { row.2 with lastUsed := now } else row.2)).map _) = _
    rw [List.map_map]
    refine List.map_congr_left fun row _ => ?_
    dsimp only [Function.comp_apply]
    split <;> rfl
  have sameBytes : (s.touch key now).entryBytes = s.entryBytes := by
    change (((s.entries.rows.map fun row =>
      (row.1, if row.1 = key then { row.2 with lastUsed := now } else row.2)).map _).sum) = _
    rw [List.map_map]
    refine congrArg List.sum (List.map_congr_left fun row _ => ?_)
    dsimp only [Function.comp_apply]
    split <;> rfl
  constructor
  · rw [sameUrls]
    exact owned.perm
  · rw [sameBytes]
    exact owned.bytes_eq

theorem Kept.touch (kept : Kept options s) (key : String) (now : ℤ) :
    Kept options (s.touch key now) :=
  ⟨kept.owned.touch key now, kept.bytes_le, { kept.waiting with }⟩

/-- A new promise that is settled at once. -/
theorem Waiting.settleNew (waiting : Waiting options s) (outcome : Settled) :
    Waiting options ({ s with promises := s.promises + 1 }.settle s.promises outcome) := by
  refine
    { waiting with
      newPromise := fun p large => ?_
      oldWaiter := fun waiters p mem => Nat.lt_succ_of_lt (waiting.oldWaiter waiters p mem)
      waits := fun p small open' => ?_ }
  · have larger : s.promises + 1 ≤ p := large
    obtain ⟨open', listener⟩ := waiting.newPromise p (by omega)
    have different : p ≠ s.promises := by omega
    exact ⟨(if_neg different).trans open', listener⟩
  · have smaller : p < s.promises + 1 := small
    have settled : (if p = s.promises then (s.settled p).or (some outcome) else s.settled p) =
        none := open'
    by_cases same : p = s.promises
    · rw [if_pos same, Option.or_eq_none_iff] at settled
      exact nomatch settled.2
    · rw [if_neg same] at settled
      exact waiting.waits p (by omega) settled

theorem Kept.settleNew (kept : Kept options s) (outcome : Settled) :
    Kept options ({ s with promises := s.promises + 1 }.settle s.promises outcome) :=
  ⟨kept.owned.of_same rfl rfl rfl rfl, kept.bytes_le, kept.waiting.settleNew outcome⟩

theorem WaitingIn.lt_nextArray {queue : List String} (waiting : WaitingIn options queue s)
    {waiters : ℕ} (served : Served queue s waiters) : waiters < s.nextArray := by
  rcases served with ⟨id, fetch, found, -, rfl⟩ | ⟨key, -, found⟩
  · exact waiting.oldTaken id fetch found
  · exact waiting.oldPending key waiters found

/-- The queue of the cache is not the one that counts. -/
theorem WaitingIn.withQueue {queue : List String} (waiting : WaitingIn options queue s)
    (queue' : List String) : WaitingIn options queue { s with queue := queue' } :=
  { waiting with }

/-- A promise that waits for a new fetch. -/
theorem WaitingIn.joinNew {queue : List String} (waiting : WaitingIn options queue s) {key : String}
    (named : key ≠ "") (none : s.pending.find? key = none) (signal : Option Bool) :
    WaitingIn options (queue ++ [key])
      { s with
        promises := s.promises + 1
        arrays := fun a => if a = s.nextArray then [] ++ [s.promises] else s.arrays a
        nextArray := s.nextArray + 1
        pending := s.pending.set key s.nextArray
        listener := fun p => if p = s.promises then signal.map fun _ => key else s.listener p } := by
  have served {waiters : ℕ} (before : Served queue s waiters) :
      Served (queue ++ [key]) { s with pending := s.pending.set key s.nextArray } waiters := by
    rcases before with taken | ⟨key', mem, found⟩
    · exact .inl taken
    · have different : key' ≠ key := by
        rintro rfl
        rw [none] at found
        cases found
      exact .inr ⟨key', List.mem_append_left _ mem,
        (Table.find?_set_of_ne _ _ different).trans found⟩
  have new : Served (queue ++ [key]) { s with pending := s.pending.set key s.nextArray }
      s.nextArray :=
    .inr ⟨key, List.mem_append_right _ List.mem_cons_self, Table.find?_set_self _ _ _⟩
  refine
    { waiting with
      named := fun mem => ?_
      newPromise := fun p large => ?_
      oldWaiter := fun waiters p mem => ?_
      oldPending := fun key' waiters found => ?_
      oldTaken := fun id fetch found => Nat.lt_succ_of_lt (waiting.oldTaken id fetch found)
      keyOf := fun key' key'' waiters found found' => ?_
      takenKey := fun id fetch key' taken found => ?_
      served := fun key' waiters found => ?_
      waits := fun p small open' => ?_ }
  · rcases List.mem_append.mp mem with before | last
    · exact waiting.named before
    · exact named (List.mem_singleton.mp last).symm
  · have larger : s.promises + 1 ≤ p := large
    have different : p ≠ s.promises := by omega
    obtain ⟨open', listener⟩ := waiting.newPromise p (by omega)
    exact ⟨open', (if_neg different).trans listener⟩
  · change p ∈ (if waiters = s.nextArray then [] ++ [s.promises] else s.arrays waiters) at mem
    split at mem
    · exact (List.mem_singleton.mp mem) ▸ Nat.lt_succ_self _
    · exact Nat.lt_succ_of_lt (waiting.oldWaiter waiters p mem)
  · change (s.pending.set key s.nextArray).find? key' = some waiters at found
    rw [Table.find?_set] at found
    split at found
    · cases found
      exact Nat.lt_succ_self _
    · exact Nat.lt_succ_of_lt (waiting.oldPending key' waiters found)
  · change (s.pending.set key s.nextArray).find? key' = some waiters at found
    change (s.pending.set key s.nextArray).find? key'' = some waiters at found'
    rw [Table.find?_set] at found found'
    split at found <;> split at found'
    · exact ‹key' = key›.trans ‹key'' = key›.symm
    · cases found
      exact absurd (waiting.oldPending key'' _ found') (lt_irrefl _)
    · cases found'
      exact absurd (waiting.oldPending key' _ found) (lt_irrefl _)
    · exact waiting.keyOf key' key'' waiters found found'
  · change (s.pending.set key s.nextArray).find? key' = some fetch.waiters at found
    rw [Table.find?_set] at found
    split at found
    · exact absurd (waiting.oldTaken id fetch taken) (by rw [← Option.some.inj found]; omega)
    · exact waiting.takenKey id fetch key' taken found
  · change (s.pending.set key s.nextArray).find? key' = some waiters at found
    rw [Table.find?_set] at found
    split at found
    · cases found
      exact new
    · exact served (waiting.served key' waiters found)
  · have smaller : p < s.promises + 1 := small
    by_cases same : p = s.promises
    · refine ⟨s.nextArray, ?_, new⟩
      dsimp only
      rw [if_pos rfl, same]
      exact List.mem_cons_self
    · obtain ⟨waiters, mem, before⟩ := waiting.waits p (by omega) open'
      have different : waiters ≠ s.nextArray := (waiting.lt_nextArray before).ne
      refine ⟨waiters, ?_, served before⟩
      dsimp only
      rwa [if_neg different]

/-- A promise that joins the waiters of its key. -/
theorem WaitingIn.join {queue queue' : List String} (waiting : WaitingIn options queue s)
    {key : String} {waiters : ℕ} (found : s.pending.find? key = some waiters)
    (longer : ∀ k ∈ queue, k ∈ queue') (named : "" ∉ queue') (signal : Option Bool) :
    WaitingIn options queue'
      { s with
        promises := s.promises + 1
        arrays := fun a => if a = waiters then s.arrays waiters ++ [s.promises] else s.arrays a
        listener := fun p => if p = s.promises then signal.map fun _ => key else s.listener p } := by
  have served {other : ℕ} (before : Served queue s other) : Served queue' s other := by
    rcases before with taken | ⟨key', mem, pending⟩
    · exact .inl taken
    · exact .inr ⟨key', longer key' mem, pending⟩
  refine
    { waiting with
      named := named
      newPromise := fun p large => ?_
      oldWaiter := fun other p mem => ?_
      served := fun key' other pending => served (waiting.served key' other pending)
      waits := fun p small open' => ?_ }
  · have larger : s.promises + 1 ≤ p := large
    have different : p ≠ s.promises := by omega
    obtain ⟨open', listener⟩ := waiting.newPromise p (by omega)
    exact ⟨open', (if_neg different).trans listener⟩
  · change p ∈ (if other = waiters then s.arrays waiters ++ [s.promises] else s.arrays other) at mem
    split at mem
    · rcases List.mem_append.mp mem with before | last
      · exact Nat.lt_succ_of_lt (waiting.oldWaiter waiters p before)
      · exact (List.mem_singleton.mp last) ▸ Nat.lt_succ_self _
    · exact Nat.lt_succ_of_lt (waiting.oldWaiter other p mem)
  · have smaller : p < s.promises + 1 := small
    by_cases same : p = s.promises
    · refine ⟨waiters, ?_, served (waiting.served key waiters found)⟩
      dsimp only
      rw [if_pos rfl, same]
      exact List.mem_append_right _ List.mem_cons_self
    · obtain ⟨other, mem, before⟩ := waiting.waits p (by omega) open'
      refine ⟨other, ?_, served before⟩
      dsimp only
      split
      · rename_i here
        exact List.mem_append_left _ (here ▸ mem)
      · exact mem

theorem Kept.load (kept : Kept options s) {key : String}
    (named : s.entries.find? key = none → key ≠ "") (signal : Option Bool) (now : ℤ) :
    Kept options (s.load options key signal now) := by
  unfold TileCache.load
  dsimp only
  split
  · exact (kept.touch key now).settleNew _
  · rename_i missing
    split
    · exact kept.settleNew .rejected
    · refine Kept.pump (kept.owned.of_same rfl rfl rfl rfl) kept.bytes_le ?_
      cases found : s.pending.find? key with
      | none => exact (kept.waiting.joinNew (named missing) found signal).withQueue _
      | some waiters =>
          have sameTable : s.pending.set key waiters = s.pending := Table.set_of_stored found
          have longer : ∀ k ∈ s.queue,
              k ∈ if s.arrays waiters = [] then s.queue ++ [key] else s.queue := by
            intro k mem
            split
            · exact List.mem_append_left _ mem
            · exact mem
          have named' : "" ∉ if s.arrays waiters = [] then s.queue ++ [key] else s.queue := by
            intro mem
            split at mem
            · rcases List.mem_append.mp mem with before | last
              · exact kept.waiting.named before
              · exact named missing (List.mem_singleton.mp last).symm
            · exact kept.waiting.named mem
          have joined := (kept.waiting.join found longer named' signal).withQueue
            (if s.arrays waiters = [] then s.queue ++ [key] else s.queue)
          rw [← sameTable] at joined
          exact joined

/-- The waiters of a settled promise do not count. -/
theorem Waiting.abort (waiting : Waiting options s) {promise : ℕ} {key : String}
    (listening : s.listener promise = some key) : Waiting options (s.abort promise key) := by
  have born : promise < s.promises := by
    by_contra unborn
    rw [(waiting.newPromise promise (Nat.le_of_not_lt unborn)).2] at listening
    cases listening
  have newPromise (p : ℕ) (large : s.promises ≤ p) :
      (if p = promise then (s.settled p).or (some .rejected) else s.settled p) = none ∧
        (if p = promise then none else s.listener p) = none := by
    have different : p ≠ promise := by omega
    rw [if_neg different, if_neg different]
    exact waiting.newPromise p large
  have stillOpen {p : ℕ}
      (open' : (if p = promise then (s.settled p).or (some .rejected) else s.settled p) = none) :
      p ≠ promise ∧ s.settled p = none := by
    by_cases same : p = promise
    · rw [if_pos same, Option.or_eq_none_iff] at open'
      cases open'.2
    · exact ⟨same, by rwa [if_neg same] at open'⟩
  unfold TileCache.abort
  dsimp only
  cases found : s.pending.find? key with
  | none =>
      exact
        { waiting with
          newPromise := newPromise
          waits := fun p small open' => waiting.waits p small (stillOpen open').2 }
  | some waiters =>
      dsimp only
      -- an array without waiters is forgotten
      have kept (key' : String) {other : ℕ}
          (pending : (if (s.arrays waiters).erase promise = [] then s.pending.erase key
            else s.pending).find? key' = some other) : s.pending.find? key' = some other := by
        split at pending
        · rw [Table.find?_erase] at pending
          split at pending
          · cases pending
          · exact pending
        · exact pending
      refine
        { waiting with
          newPromise := newPromise
          oldWaiter := fun other p mem => ?_
          oldPending := fun key' other pending => waiting.oldPending key' other (kept key' pending)
          keyOf := fun key' key'' other pending pending' =>
            waiting.keyOf key' key'' other (kept key' pending) (kept key'' pending')
          takenKey := fun id fetch key' taken pending =>
            waiting.takenKey id fetch key' taken (kept key' pending)
          served := fun key' other pending => ?_
          waits := fun p small open' => ?_ }
      · change p ∈ (if other = waiters then (s.arrays waiters).erase promise
          else s.arrays other) at mem
        split at mem
        · exact waiting.oldWaiter waiters p (List.mem_of_mem_erase mem)
        · exact waiting.oldWaiter other p mem
      · rcases waiting.served key' other (kept key' pending) with taken | ⟨queued, mem, here⟩
        · exact .inl taken
        · have same := waiting.keyOf queued key' other here (kept key' pending)
          exact .inr ⟨queued, mem, same ▸ pending⟩
      · obtain ⟨different, open''⟩ := stillOpen open'
        obtain ⟨other, mem, before⟩ := waiting.waits p small open''
        have memErase : p ∈ if other = waiters then (s.arrays waiters).erase promise
            else s.arrays other := by
          split
          · rename_i same
            exact (List.mem_erase_of_ne different).mpr (same ▸ mem)
          · exact mem
        refine ⟨other, memErase, ?_⟩
        rcases before with taken | ⟨queued, memQueue, here⟩
        · exact .inl taken
        · refine .inr ⟨queued, memQueue, ?_⟩
          change (if (s.arrays waiters).erase promise = [] then s.pending.erase key
            else s.pending).find? queued = some other
          split
          · rename_i nobody
            rw [Table.find?_erase]
            split
            · rename_i same
              rw [same, found] at here
              rw [if_pos (Option.some.inj here).symm, nobody] at memErase
              cases memErase
            · exact here
          · exact here

theorem Kept.abort (kept : Kept options s) {promise : ℕ} {key : String}
    (listening : s.listener promise = some key) : Kept options (s.abort promise key) := by
  refine ⟨?_, ?_, kept.waiting.abort listening⟩
  · unfold TileCache.abort
    dsimp only
    split
    · exact kept.owned.of_same rfl rfl rfl rfl
    · exact kept.owned.of_same rfl rfl rfl rfl
  · unfold TileCache.abort
    dsimp only
    split
    · exact kept.bytes_le
    · exact kept.bytes_le

theorem Kept.clear (kept : Kept options s) : Kept options s.clear := by
  refine ⟨⟨?_, rfl⟩, Int.natCast_nonneg _, { kept.waiting with }⟩
  exact kept.owned.perm

/-- Answering all waiters of an array, whose key is forgotten. -/
theorem WaitingIn.answer {queue : List String} (waiting : WaitingIn options queue s) {key : String}
    {waiters : ℕ} (outcome : Settled)
    (own : ∀ other, s.pending.find? key = some other → other = waiters ∨ s.Taken other) :
    WaitingIn options queue
      { s.settleAll (s.arrays waiters) outcome with pending := s.pending.erase key } := by
  have kept (key' : String) {other : ℕ}
      (pending : (s.pending.erase key).find? key' = some other) :
      key' ≠ key ∧ s.pending.find? key' = some other := by
    rw [Table.find?_erase] at pending
    split at pending
    · cases pending
    · exact ⟨‹_›, pending⟩
  rw [settleAll_eq]
  refine
    { waiting with
      newPromise := fun p large => ?_
      oldPending := fun key' other pending => waiting.oldPending key' other (kept key' pending).2
      keyOf := fun key' key'' other pending pending' =>
        waiting.keyOf key' key'' other (kept key' pending).2 (kept key'' pending').2
      takenKey := fun id fetch key' taken pending =>
        waiting.takenKey id fetch key' taken (kept key' pending).2
      served := fun key' other pending => ?_
      waits := fun p small open' => ?_ }
  · obtain ⟨open', listener⟩ := waiting.newPromise p large
    have unborn : p ∉ s.arrays waiters := fun mem =>
      absurd (waiting.oldWaiter waiters p mem) (Nat.not_lt.mpr large)
    exact ⟨(if_neg unborn).trans open', listener⟩
  · rcases waiting.served key' other (kept key' pending).2 with taken | ⟨queued, mem, here⟩
    · exact .inl taken
    · have same := waiting.keyOf queued key' other here (kept key' pending).2
      exact .inr ⟨queued, mem, same ▸ pending⟩
  · have settled : (if p ∈ s.arrays waiters then (s.settled p).or (some outcome)
        else s.settled p) = none := open'
    by_cases answered : p ∈ s.arrays waiters
    · rw [if_pos answered, Option.or_eq_none_iff] at settled
      cases settled.2
    · rw [if_neg answered] at settled
      obtain ⟨other, mem, before⟩ := waiting.waits p small settled
      refine ⟨other, mem, ?_⟩
      rcases before with taken | ⟨queued, memQueue, here⟩
      · exact .inl taken
      · by_cases same : queued = key
        · rcases own other (same ▸ here) with rfl | taken
          · exact absurd mem answered
          · exact .inl taken
        · refine .inr ⟨queued, memQueue, ?_⟩
          exact (Table.find?_erase _ _ _).trans ((if_neg same).trans here)

/-- The rest of a cancellation: every array that is left is the one its key has, if any. -/
theorem kept_foldl_cancel {rows : List (String × ℕ)} (kept : Kept options s)
    (own : ∀ row ∈ rows, ∀ other, s.pending.find? row.1 = some other → other = row.2) :
    Kept options (rows.foldl (fun s row => s.cancel row.1 row.2) s) := by
  induction rows generalizing s with
  | nil => exact kept
  | cons row rest ih =>
      obtain ⟨first, later⟩ := List.forall_mem_cons.mp own
      have answered := kept.waiting.answer .rejected fun other found => .inl (first other found)
      rw [List.foldl_cons]
      refine ih ?_ ?_
      · rw [cancel, settleAll_eq] at *
        exact ⟨kept.owned.of_same rfl rfl rfl rfl, kept.bytes_le,
          { answered with saturated := kept.waiting.saturated }⟩
      · intro row' mem other found
        rw [cancel, settleAll_eq] at found
        change (s.pending.erase row.1).find? row'.1 = some other at found
        rw [Table.find?_erase] at found
        split at found
        · cases found
        · exact later row' mem other found

theorem Kept.cancelOutside (kept : Kept options s) (keys : List String) :
    Kept options (s.cancelOutside keys) := by
  refine kept_foldl_cancel kept fun row mem other found => ?_
  have stored := Table.mem_rows_iff.mp (List.mem_of_mem_filter mem)
  rw [stored] at found
  exact (Option.some.inj found).symm

theorem Kept.release (kept : Kept options s) {id : ℕ} {fetch : TileFetch}
    (found : s.fetches.find? id = some fetch) (ended : fetch.ended = true) :
    Kept options (s.release options id) := by
  have waiting := kept.waiting
  have shorter := (Table.perm_erase found).length_eq
  rw [List.length_cons] at shorter
  have still {other : ℕ} (taken : s.Taken other) :
      Taken { s with active := s.active - 1, fetches := s.fetches.erase id } other := by
    obtain ⟨id', fetch', found', running, rfl⟩ := taken
    refine ⟨id', fetch', ?_, running, rfl⟩
    have different : id' ≠ id := by
      rintro rfl
      rw [found] at found'
      rw [Option.some.inj found', running] at ended
      cases ended
    exact (Table.find?_erase _ _ _).trans ((if_neg different).trans found')
  have kept' {id' : ℕ} {fetch' : TileFetch}
      (found' : (s.fetches.erase id).find? id' = some fetch') :
      s.fetches.find? id' = some fetch' := by
    rw [Table.find?_erase] at found'
    split at found'
    · cases found'
    · exact found'
  refine Kept.pump (kept.owned.of_same rfl rfl rfl rfl) kept.bytes_le ?_
  refine
    { waiting.toWaitingIn with
      active_eq := ?_
      active_le := ?_
      newFetch := fun id' large => ?_
      oldTaken := fun id' fetch' taken => waiting.oldTaken id' fetch' (kept' taken)
      takenKey := fun id' fetch' key taken pending =>
        waiting.takenKey id' fetch' key (kept' taken) pending
      served := fun key waiters pending => (waiting.served key waiters pending).imp_left still
      waits := fun p small open' => ?_ }
  · change s.active - 1 = (s.fetches.erase id).rows.length
    have := waiting.active_eq
    omega
  · change s.active - 1 ≤ options.maxConcurrent
    have := waiting.active_le
    omega
  · refine (Table.find?_erase _ _ _).trans ?_
    split
    · rfl
    · exact waiting.newFetch id' large
  · obtain ⟨waiters, mem, before⟩ := waiting.waits p small open'
    exact ⟨waiters, mem, before.imp_left still⟩

/-- A fetch whose waiters have been answered, and whose key is forgotten, ends. -/
theorem WaitingIn.finish {queue : List String} (waiting : WaitingIn options queue s) {id : ℕ}
    {fetch : TileFetch} (found : s.fetches.find? id = some fetch)
    (forgotten : s.pending.find? fetch.key = none)
    (answered : ∀ p ∈ s.arrays fetch.waiters, s.settled p ≠ none) :
    WaitingIn options queue
      { s with fetches := s.fetches.set id { fetch with ended := true } } := by
  have other {waiters : ℕ} (different : waiters ≠ fetch.waiters) (taken : s.Taken waiters) :
      Taken { s with fetches := s.fetches.set id { fetch with ended := true } } waiters := by
    obtain ⟨id', fetch', found', running, rfl⟩ := taken
    refine ⟨id', fetch', ?_, running, rfl⟩
    have notThis : id' ≠ id := by
      rintro rfl
      rw [found] at found'
      exact different (congrArg TileFetch.waiters (Option.some.inj found').symm)
    exact (Table.find?_set_of_ne _ _ notThis).trans found'
  have before {id' : ℕ} {fetch' : TileFetch}
      (found' : (s.fetches.set id { fetch with ended := true }).find? id' = some fetch') :
      ∃ old, s.fetches.find? id' = some old ∧ fetch'.key = old.key ∧
        fetch'.waiters = old.waiters := by
    rw [Table.find?_set] at found'
    split at found'
    · cases found'
      rename_i same
      exact ⟨fetch, same ▸ found, rfl, rfl⟩
    · exact ⟨fetch', found', rfl, rfl⟩
  refine
    { waiting with
      active_eq := ?_
      newFetch := fun id' large => ?_
      oldTaken := fun id' fetch' taken => ?_
      takenKey := fun id' fetch' key taken pending => ?_
      served := fun key waiters pending => ?_
      waits := fun p small open' => ?_ }
  · exact waiting.active_eq.trans (Table.length_set_of_stored found _).symm
  · have notThis : id' ≠ id := by
      rintro rfl
      rw [waiting.newFetch id' large] at found
      cases found
    exact (Table.find?_set_of_ne _ _ notThis).trans (waiting.newFetch id' large)
  · obtain ⟨old, found', -, sameWaiters⟩ := before taken
    exact sameWaiters ▸ waiting.oldTaken id' old found'
  · obtain ⟨old, found', sameKey, sameWaiters⟩ := before taken
    exact sameKey ▸ waiting.takenKey id' old key found' (sameWaiters ▸ pending)
  · have different : waiters ≠ fetch.waiters := by
      rintro rfl
      have same := waiting.takenKey id fetch key found pending
      rw [same, forgotten] at pending
      cases pending
    exact (waiting.served key waiters pending).imp_left (other different)
  · obtain ⟨waiters, mem, served⟩ := waiting.waits p small open'
    have different : waiters ≠ fetch.waiters := by
      rintro rfl
      exact answered p mem open'
    exact ⟨waiters, mem, served.imp_left (other different)⟩

/-- The promises after a fetch, whatever became of the entries. -/
theorem Waiting.ended (waiting : Waiting options s) {id : ℕ} {fetch : TileFetch}
    (found : s.fetches.find? id = some fetch)
    (own : ∀ other, s.pending.find? fetch.key = some other → s.Taken other) (outcome : Settled)
    (entries : Table String TileEntry) (revoked : List ℕ) (bytes : ℤ) (created : ℕ) :
    Waiting options
      { ({ s with
            entries := entries, revoked := revoked, bytes := bytes,
            created := created } : TileCache).settleAll (s.arrays fetch.waiters) outcome with
        pending := s.pending.erase fetch.key
        fetches := s.fetches.set id { fetch with ended := true } } := by
  have answered := @WaitingIn.answer options s s.queue waiting.toWaitingIn fetch.key fetch.waiters
    outcome fun other pending => .inr (own other pending)
  rw [settleAll_eq] at answered ⊢
  have finished := answered.finish found
    ((Table.find?_erase _ _ _).trans (if_pos rfl)) fun p mem => by
      dsimp only at mem ⊢
      rw [if_pos mem]
      cases s.settled p <;> nofun
  exact { finished with saturated := waiting.saturated }

/-! ## Steps -/

/-- A step that comes to no key without a name, and no fetch that another request of its key has
overtaken or whose body the cache has no room for. -/
def Orderly (options : TileCacheOptions) (s : TileCache) : TileOp → Prop
  | .load key _ _ => s.entries.find? key = none → key ≠ ""
  | .fetched id result now =>
      ∀ fetch, s.fetches.find? id = some fetch → fetch.ended = false →
        (∀ waiters, s.pending.find? fetch.key = some waiters → s.Taken waiters) ∧
        ∀ size, result = .body size →
          s.entries.find? fetch.key = none ∧ size ≤ options.maxBytes ∧
            ∀ row ∈ s.entries.rows, row.2.lastUsed ≤ now
  | _ => True

/-- The cache after the body of a fetch has been stored. -/
def stored (options : TileCacheOptions) (s : TileCache) (key : String) (size : ℕ) (now : ℤ) :
    TileCache :=
  evict options
    { s with
      created := s.created + 1
      entries := s.entries.set key ⟨s.created, size, now⟩
      bytes := s.bytes + size }

/-- **Storing a body** that there is room for: the entry is there when its waiters are told. -/
theorem stored_spec (owned : Owned s) (room : 1 ≤ options.maxEntries) {key : String} {size : ℕ}
    {now : ℤ} (missing : s.entries.find? key = none) (fits : size ≤ options.maxBytes)
    (latest : ∀ row ∈ s.entries.rows, row.2.lastUsed ≤ now) :
    Owned (stored options s key size now) ∧
      (stored options s key size now).bytes ≤ options.maxBytes ∧
      (stored options s key size now).entries.find? key = some ⟨s.created, size, now⟩ := by
  have rows := Table.rows_set_of_fresh missing (⟨s.created, size, now⟩ : TileEntry)
  have added : Owned { s with
      created := s.created + 1
      entries := s.entries.set key ⟨s.created, size, now⟩
      bytes := s.bytes + size } := by
    constructor
    · change (((s.entries.set key ⟨s.created, size, now⟩).rows.map _) ++ s.revoked).Perm _
      rw [rows, List.map_append, List.append_assoc, List.range_succ]
      refine List.Perm.trans ?_ (owned.perm.append_right [s.created])
      rw [List.append_assoc]
      exact List.Perm.append_left _ List.perm_append_comm
    · change s.bytes + size = ((s.entries.set key ⟨s.created, size, now⟩).rows.map _).sum
      rw [rows, List.map_append, List.sum_append, owned.bytes_eq]
      simp [entryBytes]
  obtain ⟨ownedAfter, bytes⟩ : Owned (stored options s key size now) ∧
      (stored options s key size now).bytes ≤ options.maxBytes := owned_evictRounds added le_rfl
  have survives : (key, ⟨s.created, size, now⟩) ∈ (stored options s key size now).entries.rows :=
    mem_evictRounds added room rows fits latest
  exact ⟨ownedAfter, bytes, Table.mem_rows_iff.mp survives⟩

/-- The end of a fetch, by its result. -/
theorem endFetch_failed (s : TileCache) (id : ℕ) (fetch : TileFetch) (now : ℤ) :
    s.endFetch options id fetch .failed now =
      { s.settleAll (s.arrays fetch.waiters) .rejected with
        pending := s.pending.erase fetch.key
        fetches := s.fetches.set id { fetch with ended := true } } := by
  unfold endFetch
  dsimp only
  rw [settleAll_eq]

theorem endFetch_body (s : TileCache) (id : ℕ) (fetch : TileFetch) (size : ℕ) (now : ℤ) :
    ∃ entries revoked bytes, stored options s fetch.key size now =
        { s with
          entries := entries, revoked := revoked, bytes := bytes, created := s.created + 1 } ∧
      s.endFetch options id fetch (.body size) now =
        { ({ s with
              entries := entries, revoked := revoked, bytes := bytes,
              created := s.created + 1 } : TileCache).settleAll (s.arrays fetch.waiters)
            (.resolved s.created) with
          pending := s.pending.erase fetch.key
          fetches := s.fetches.set id { fetch with ended := true } } := by
  obtain ⟨entries, revoked, bytes, framed⟩ := evictRounds_frame options _
    { s with
      created := s.created + 1
      entries := s.entries.set fetch.key ⟨s.created, size, now⟩
      bytes := s.bytes + size }
  refine ⟨entries, revoked, bytes, framed, ?_⟩
  unfold endFetch evict
  dsimp only
  rw [framed, settleAll_eq]

/-- **The end of a fetch** keeps what is kept, and its waiters are told a URL in the cache. -/
theorem Kept.endFetch (kept : Kept options s) (room : 1 ≤ options.maxEntries) {id : ℕ}
    {fetch : TileFetch} {result : FetchResult} {now : ℤ}
    (found : s.fetches.find? id = some fetch)
    (own : ∀ waiters, s.pending.find? fetch.key = some waiters → s.Taken waiters)
    (fits : ∀ size, result = .body size →
      s.entries.find? fetch.key = none ∧ size ≤ options.maxBytes ∧
        ∀ row ∈ s.entries.rows, row.2.lastUsed ≤ now) :
    Kept options (s.endFetch options id fetch result now) ∧
      ResolvesLive s (s.endFetch options id fetch result now) := by
  cases result with
  | failed =>
      rw [endFetch_failed]
      have waiting := kept.waiting.ended found own .rejected s.entries s.revoked s.bytes s.created
      refine ⟨⟨?_, ?_, waiting⟩, fun p url open' resolved => ?_⟩
      · rw [settleAll_eq]
        exact kept.owned.of_same rfl rfl rfl rfl
      · rw [settleAll_eq]
        exact kept.bytes_le
      · rw [settleAll_eq] at resolved
        dsimp only at resolved
        rw [open'] at resolved
        split at resolved <;> cases resolved
  | body size =>
      obtain ⟨missing, small, latest⟩ := fits size rfl
      obtain ⟨owned, bytes_le, cached⟩ := stored_spec kept.owned room missing small latest
      obtain ⟨entries, revoked, bytes, framed, ended⟩ :=
        @endFetch_body options s id fetch size now
      rw [framed] at owned bytes_le cached
      have waiting := kept.waiting.ended found own (.resolved s.created) entries revoked bytes
        (s.created + 1)
      rw [ended]
      refine ⟨⟨?_, ?_, waiting⟩, fun p url open' resolved => ?_⟩
      · rw [settleAll_eq]
        exact owned.of_same rfl rfl rfl rfl
      · rw [settleAll_eq]
        exact bytes_le
      · rw [settleAll_eq] at resolved ⊢
        dsimp only at resolved
        rw [open'] at resolved
        split at resolved
        · cases resolved
          exact owned.not_revoked cached
        · cases resolved

/-- A step that resolves nothing. -/
theorem resolvesLive_of_not_resolved
    (same : ∀ p url, s'.settled p = some (.resolved url) → s.settled p = some (.resolved url)) :
    ResolvesLive s s' := by
  intro p url open' resolved
  rw [same p url resolved] at open'
  cases open'

theorem settled_pump (s : TileCache) : (s.pump options).settled = s.settled := by
  obtain ⟨queue, active, fetches, nextFetch, framed⟩ := pumpQueue_frame options s s.queue
  rw [pump, framed]

/-- A rejection resolves nothing. -/
theorem eq_of_or_rejected {before : Option Settled} {url : ℕ}
    (resolved : before.or (some .rejected) = some (.resolved url)) :
    before = some (.resolved url) := by
  cases before with
  | none => exact nomatch resolved
  | some outcome => exact resolved

theorem resolvesLive_load (owned : Owned s) (key : String) (signal : Option Bool) (now : ℤ) :
    ResolvesLive s (s.load options key signal now) := by
  unfold load
  dsimp only
  split
  · rename_i entry cached
    intro p url open' resolved
    change (if p = s.promises then (s.settled p).or (some (.resolved entry.url))
      else s.settled p) = _ at resolved
    rw [open'] at resolved
    split at resolved
    · cases resolved
      exact owned.not_revoked cached
    · cases resolved
  · split
    · refine resolvesLive_of_not_resolved fun p url resolved => ?_
      change (if p = s.promises then (s.settled p).or (some .rejected) else s.settled p) = _
        at resolved
      split at resolved
      · exact eq_of_or_rejected resolved
      · exact resolved
    · refine resolvesLive_of_not_resolved fun p url resolved => ?_
      rw [settled_pump] at resolved
      exact resolved

theorem resolvesLive_abort (s : TileCache) (promise : ℕ) (key : String) :
    ResolvesLive s (s.abort promise key) := by
  have rejects {p url : ℕ}
      (resolved : (if p = promise then (s.settled p).or (some .rejected) else s.settled p) =
        some (.resolved url)) : s.settled p = some (.resolved url) := by
    split at resolved
    · exact eq_of_or_rejected resolved
    · exact resolved
  refine resolvesLive_of_not_resolved fun p url resolved => ?_
  unfold abort at resolved
  dsimp only at resolved
  split at resolved
  · exact rejects resolved
  · exact rejects resolved

theorem settled_of_foldl_cancel {rows : List (String × ℕ)} {p url : ℕ}
    (resolved : (rows.foldl (fun s row => s.cancel row.1 row.2) s).settled p =
      some (.resolved url)) : s.settled p = some (.resolved url) := by
  induction rows generalizing s with
  | nil => exact resolved
  | cons row rest ih =>
      have earlier := @ih (s.cancel row.1 row.2) resolved
      change (s.settleAll (s.arrays row.2) .rejected).settled p = _ at earlier
      rw [settleAll_eq] at earlier
      dsimp only at earlier
      split at earlier
      · exact eq_of_or_rejected earlier
      · exact earlier

/-- **An orderly step** keeps what is kept, and resolves no promise with a revoked URL. -/
theorem Kept.step (kept : Kept options s) (room : 1 ≤ options.maxEntries) {op : TileOp}
    (orderly : Orderly options s op) :
    Kept options (s.step options op) ∧ ResolvesLive s (s.step options op) := by
  have unchanged : Kept options s ∧ ResolvesLive s s :=
    ⟨kept, resolvesLive_of_not_resolved fun _ _ resolved => resolved⟩
  cases op with
  | get key now =>
      exact ⟨kept.touch key now, resolvesLive_of_not_resolved fun _ _ resolved => resolved⟩
  | load key signal now =>
      exact ⟨kept.load orderly signal now, resolvesLive_load kept.owned key signal now⟩
  | abort promise =>
      unfold TileCache.step
      dsimp only
      split
      · exact unchanged
      · rename_i key listening
        exact ⟨kept.abort listening, resolvesLive_abort s promise key⟩
  | cancelOutside keys =>
      exact ⟨kept.cancelOutside keys,
        resolvesLive_of_not_resolved fun _ _ resolved => settled_of_foldl_cancel resolved⟩
  | clear =>
      exact ⟨kept.clear, resolvesLive_of_not_resolved fun _ _ resolved => resolved⟩
  | fetched id result now =>
      unfold TileCache.step
      dsimp only
      split
      · exact unchanged
      · rename_i fetch found
        split
        · exact unchanged
        · rename_i running
          obtain ⟨own, fits⟩ := orderly fetch found (Bool.eq_false_iff.mpr running)
          exact kept.endFetch room found own fits
  | finished id =>
      unfold TileCache.step
      dsimp only
      split
      · exact unchanged
      · rename_i fetch found
        split
        · rename_i ended
          refine ⟨kept.release found ended, resolvesLive_of_not_resolved fun p url resolved => ?_⟩
          rw [TileCache.release, settled_pump] at resolved
          exact resolved
        · exact unchanged

/-- What is kept is what is expected. -/
theorem Kept.right (kept : Kept options s) (positive : 1 ≤ options.maxConcurrent) :
    Right options s where
  bytes_eq := kept.owned.bytes_eq
  bytes_le := kept.bytes_le
  fetches_le := kept.waiting.active_eq ▸ kept.waiting.active_le
  owned _ created := kept.owned.owned created
  idle none p small open' := by
    have waiting := kept.waiting
    have inactive : s.active = 0 := by rw [waiting.active_eq, none, List.length_nil]
    have noQueue : s.queue = [] := by
      rcases waiting.saturated with empty | full
      · exact empty
      · omega
    obtain ⟨waiters, -, served⟩ := waiting.waits p small open'
    rcases served with ⟨id, fetch, found, -, -⟩ | ⟨key, mem, -⟩
    · have stored := Table.mem_rows_iff.mpr found
      rw [none] at stored
      exact nomatch stored
    · rw [noQueue] at mem
      exact nomatch mem

end TileCache

open TileCache

/-- **The cache after orderly steps.**  With room for an entry and a fetch, every run of orderly
steps reaches a state that is as expected, and none of its steps resolves a promise with a revoked
object URL. -/
theorem tileCache_right {options : TileCacheOptions} {ops : List TileOp}
    (entries : 1 ≤ options.maxEntries) (concurrent : 1 ≤ options.maxConcurrent)
    (orderly : (machine options).AllSteps (Orderly options) empty ops) :
    Right options ((machine options).exec empty ops) ∧
      ∀ op, Orderly options ((machine options).exec empty ops) op →
        ResolvesLive ((machine options).exec empty ops)
          ((machine options).exec empty (ops ++ [op])) := by
  have kept : Kept options ((machine options).exec empty ops) :=
    (machine options).exec_invariant_of_allSteps (Kept options) kept_empty
      (fun s op orderly kept => (kept.step entries orderly).1) ops orderly
  refine ⟨kept.right concurrent, fun op next => ?_⟩
  rw [Machine.exec_concat]
  exact (kept.step entries next).2

/-- A load, its fetch and the end of both. -/
theorem tileCache_right_sample :
    Right .default ((machine .default).exec empty
        [.load "a" none 0, .fetched 0 (.body 1) 1, .finished 0]) ∧
      ∀ op, Orderly .default ((machine .default).exec empty
          [.load "a" none 0, .fetched 0 (.body 1) 1, .finished 0]) op →
        ResolvesLive ((machine .default).exec empty
            [.load "a" none 0, .fetched 0 (.body 1) 1, .finished 0])
          ((machine .default).exec empty
            ([.load "a" none 0, .fetched 0 (.body 1) 1, .finished 0] ++ [op])) := by
  refine tileCache_right (by decide) (by decide) ⟨fun _ => by decide, ?_, trivial, trivial⟩
  intro fetch found running
  have started : (TileCache.step .default empty (.load "a" none 0)).fetches.find? 0 =
      some ⟨"a", 0, false⟩ := by decide +kernel
  have waits : (TileCache.step .default empty (.load "a" none 0)).pending.find? "a" = some 0 := by
    decide +kernel
  cases started.symm.trans found
  refine ⟨fun waiters pending => ?_, fun size body => ?_⟩
  · cases waits.symm.trans pending
    exact ⟨0, _, started, rfl, rfl⟩
  · cases body
    have none : ((machine .default).step empty (.load "a" none 0)).1.entries.rows = [] := by
      decide +kernel
    refine ⟨by decide +kernel, by decide, fun row mem => ?_⟩
    rw [none] at mem
    exact nomatch mem

/-- The body of a key is stored over that of an earlier fetch, whose URL nothing holds any more
and whose bytes are still counted. -/
theorem tileCache_not_right :
    ¬ ∀ options ops, Right options ((machine options).exec empty ops) := by
  intro right
  have wrong := (right .default
    [.load "a" none 0, .cancelOutside [], .load "a" none 1, .fetched 0 (.body 1) 2, .finished 0,
      .fetched 1 (.body 1) 3, .finished 1]).bytes_eq
  revert wrong
  decide +kernel

end CubeNano.Web

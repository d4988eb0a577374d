import CubeNano.Lib.Machine
import CubeNano.Lib.Table
import Mathlib.Algebra.BigOperators.Group.List.Basic
import Mathlib.Algebra.Ring.Int.Defs
import Mathlib.Data.Int.Notation

/-!
# The tile cache of the web console

`TileCache` of `gds/web/src/utils/tileCache.ts`, with the fetches it runs.  Between two
operations the promise jobs of a fetch may run: the end of `fetchOne`, once the body has arrived
or the fetch has failed, and later the callback of `finally`.

Object URLs are numbered as they are created, the arrays of waiters as they are made, and the
promises of `load` as they are returned.

## Main definitions

* `TileCache` — the fields of the class, with the object URLs and the promises
* `TileOp`, `TileCache.step` — what happens to a cache
* `TileCache.Right`, `TileCache.ResolvesLive` — what is expected of a state and of a step
-/

namespace CubeNano.Web

/-! ## The cache -/

/-- `TileCacheOptions`. -/
structure TileCacheOptions where
  maxEntries : ℕ
  maxBytes : ℕ
  maxConcurrent : ℕ

/-- The options of a cache that is made without any. -/
def TileCacheOptions.default : TileCacheOptions := ⟨128, 32 * 1024 * 1024, 8⟩

/-- `Entry`. -/
structure TileEntry where
  url : ℕ
  bytes : ℕ
  lastUsed : ℤ
  deriving DecidableEq

/-- A call of `fetchOne`: its key, the array `waiters` it took, and whether it has ended, so that
only `finally` is left. -/
structure TileFetch where
  key : String
  waiters : ℕ
  ended : Bool
  deriving DecidableEq

/-- How a promise was settled. -/
inductive Settled
  | resolved (url : ℕ)
  | rejected
  deriving DecidableEq

/-- What a fetch came to: a body of a size, or an error. -/
inductive FetchResult
  | body (size : ℕ)
  | failed
  deriving DecidableEq

/-- `TileCache`. -/
structure TileCache where
  entries : Table String TileEntry
  /-- The array of waiters of a key. -/
  pending : Table String ℕ
  queue : List String
  active : ℕ
  bytes : ℤ
  /-- The waiters in an array, by the number of their promise. -/
  arrays : ℕ → List ℕ
  nextArray : ℕ
  fetches : Table ℕ TileFetch
  nextFetch : ℕ
  /-- How many object URLs were created, and those that were revoked. -/
  created : ℕ
  revoked : List ℕ
  /-- How many promises `load` has returned, and how they were settled. -/
  promises : ℕ
  settled : ℕ → Option Settled
  /-- The key of the abort listener of a promise. -/
  listener : ℕ → Option String

namespace TileCache

/-- A new cache. -/
def empty : TileCache :=
  ⟨.empty, .empty, [], 0, 0, fun _ => [], 0, .empty, 0, 0, [], 0, fun _ => none, fun _ => none⟩

/-- The first call of `resolve` or `reject` counts. -/
def settle (s : TileCache) (promise : ℕ) (outcome : Settled) : TileCache :=
  { s with
    settled := fun p => if p = promise then (s.settled p).or (some outcome) else s.settled p }

/-- All waiters of an array. -/
def settleAll (s : TileCache) (waiters : List ℕ) (outcome : Settled) : TileCache :=
  waiters.foldl (fun s promise => s.settle promise outcome) s

/-! ## Eviction -/

/-- The entry that the sort by `lastUsed` puts first. -/
def oldest : List (String × TileEntry) → Option (String × TileEntry)
  | [] => none
  | row :: rest =>
      match oldest rest with
      | none => some row
      | some other => if row.2.lastUsed ≤ other.2.lastUsed then some row else some other

/-- `evict`.  Every round removes an entry; the fuel is the number of entries. -/
def evictRounds (options : TileCacheOptions) : (fuel : ℕ) → TileCache → TileCache
  | 0, s => s
  | fuel + 1, s =>
      if options.maxEntries < s.entries.rows.length ∨ (options.maxBytes : ℤ) < s.bytes then
        match oldest s.entries.rows with
        | none => s
        | some (key, entry) =>
            evictRounds options fuel
              { s with
                revoked := entry.url :: s.revoked
                entries := s.entries.erase key
                bytes := s.bytes - entry.bytes }
      else s

@[inherit_doc evictRounds]
def evict (options : TileCacheOptions) (s : TileCache) : TileCache :=
  evictRounds options s.entries.rows.length s

/-! ## Fetches -/

/-- The start of `fetchOne`. -/
def startFetch (s : TileCache) (key : String) (waiters : ℕ) : TileCache :=
  { s with
    active := s.active + 1
    fetches := s.fetches.set s.nextFetch ⟨key, waiters, false⟩
    nextFetch := s.nextFetch + 1 }

/-- The loop of `pump` over what is left of the queue. -/
def pumpQueue (options : TileCacheOptions) : TileCache → List String → TileCache
  | s, [] => { s with queue := [] }
  | s, key :: rest =>
      if s.active < options.maxConcurrent then
        match s.pending.find? key with
        | none => pumpQueue options s rest
        | some waiters =>
            if key = "" then pumpQueue options s rest
            else pumpQueue options (s.startFetch key waiters) rest
      else { s with queue := key :: rest }

/-- `pump`. -/
def pump (options : TileCacheOptions) (s : TileCache) : TileCache := pumpQueue options s s.queue

/-- The end of `fetchOne`. -/
def endFetch (options : TileCacheOptions) (s : TileCache) (id : ℕ) (fetch : TileFetch)
    (result : FetchResult) (now : ℤ) : TileCache :=
  let waiters := s.arrays fetch.waiters
  let s :=
    match result with
    | .body size =>
        let url := s.created
        let s := evict options
          { s with
            created := s.created + 1
            entries := s.entries.set fetch.key ⟨url, size, now⟩
            bytes := s.bytes + size }
        s.settleAll waiters (.resolved url)
    | .failed => s.settleAll waiters .rejected
  { s with
    pending := s.pending.erase fetch.key
    fetches := s.fetches.set id { fetch with ended := true } }

/-! ## Operations -/

/-- `get`, with the time. -/
def touch (s : TileCache) (key : String) (now : ℤ) : TileCache :=
  { s with entries := s.entries.update key fun entry => { entry with lastUsed := now } }

/-- `load`, with whether its signal was aborted, if it has one. -/
def load (options : TileCacheOptions) (s : TileCache) (key : String) (signal : Option Bool)
    (now : ℤ) : TileCache :=
  let promise := s.promises
  let s := { s with promises := s.promises + 1 }
  match s.entries.find? key with
  | some entry => (s.touch key now).settle promise (.resolved entry.url)
  | none =>
      if signal = some true then s.settle promise .rejected
      else
        let waiters := (s.pending.find? key).getD s.nextArray
        let others := ((s.pending.find? key).map s.arrays).getD []
        pump options
          { s with
            arrays := fun a => if a = waiters then others ++ [promise] else s.arrays a
            nextArray := if (s.pending.find? key).isSome then s.nextArray else s.nextArray + 1
            pending := s.pending.set key waiters
            queue := if others = [] then s.queue ++ [key] else s.queue
            listener := fun p => if p = promise then signal.map fun _ => key else s.listener p }

/-- The abort listener of a promise. -/
def abort (s : TileCache) (promise : ℕ) (key : String) : TileCache :=
  let s := { s with listener := fun p => if p = promise then none else s.listener p }
  let s :=
    match s.pending.find? key with
    | none => s
    | some waiters =>
        let rest := (s.arrays waiters).erase promise
        { s with
          arrays := fun a => if a = waiters then rest else s.arrays a
          pending := if rest = [] then s.pending.erase key else s.pending }
  s.settle promise .rejected

/-- `clear`. -/
def clear (s : TileCache) : TileCache :=
  { s with
    revoked := (s.entries.rows.map fun row => row.2.url) ++ s.revoked
    entries := .empty
    bytes := 0 }

/-- One key of `cancelOutside`. -/
def cancel (s : TileCache) (key : String) (waiters : ℕ) : TileCache :=
  { s.settleAll (s.arrays waiters) .rejected with pending := s.pending.erase key }

/-- `cancelOutside`. -/
def cancelOutside (s : TileCache) (keys : List String) : TileCache :=
  (s.pending.rows.filter fun row => row.1 ∉ keys).foldl (fun s row => s.cancel row.1 row.2) s

/-- The callback of `finally`. -/
def release (options : TileCacheOptions) (s : TileCache) (id : ℕ) : TileCache :=
  pump options { s with active := s.active - 1, fetches := s.fetches.erase id }

end TileCache

/-- What happens to a cache. -/
inductive TileOp
  | get (key : String) (now : ℤ)
  | load (key : String) (signal : Option Bool) (now : ℤ)
  | abort (promise : ℕ)
  | cancelOutside (keys : List String)
  | clear
  /-- A running fetch comes to its end. -/
  | fetched (id : ℕ) (result : FetchResult) (now : ℤ)
  /-- The callback of `finally` runs. -/
  | finished (id : ℕ)
  deriving DecidableEq

namespace TileCache

/-- One operation. -/
def step (options : TileCacheOptions) (s : TileCache) : TileOp → TileCache
  | .get key now => s.touch key now
  | .load key signal now => s.load options key signal now
  | .abort promise =>
      match s.listener promise with
      | none => s
      | some key => s.abort promise key
  | .cancelOutside keys => s.cancelOutside keys
  | .clear => s.clear
  | .fetched id result now =>
      match s.fetches.find? id with
      | none => s
      | some fetch => if fetch.ended then s else s.endFetch options id fetch result now
  | .finished id =>
      match s.fetches.find? id with
      | none => s
      | some fetch => if fetch.ended then s.release options id else s

/-- The cache as a machine. -/
def machine (options : TileCacheOptions) : Machine TileCache TileOp Unit where
  step s op := (s.step options op, ())

/-! ## What is expected -/

/-- The sizes of the cached entries, added up. -/
def entryBytes (s : TileCache) : ℤ := (s.entries.rows.map fun row => (row.2.bytes : ℤ)).sum

/-- The object URLs in the cache. -/
def urls (s : TileCache) : List ℕ := s.entries.rows.map fun row => row.2.url

/-- What is expected of a state between two operations. -/
structure Right (options : TileCacheOptions) (s : TileCache) : Prop where
  bytes_eq : s.bytes = s.entryBytes
  bytes_le : s.bytes ≤ options.maxBytes
  fetches_le : s.fetches.rows.length ≤ options.maxConcurrent
  owned : ∀ url < s.created, url ∈ s.urls ∨ url ∈ s.revoked
  idle : s.fetches.rows = [] → ∀ promise < s.promises, s.settled promise ≠ none

/-- No promise is resolved with a revoked object URL. -/
def ResolvesLive (s s' : TileCache) : Prop :=
  ∀ promise url, s.settled promise = none → s'.settled promise = some (.resolved url) →
    url ∉ s'.revoked

end TileCache

end CubeNano.Web

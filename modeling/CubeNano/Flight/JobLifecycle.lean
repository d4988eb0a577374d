import CubeNano.Flight.JournalFrames
import Mathlib.Logic.Relation

/-!
# The life of an analysis job

Jobs and products of the payload are moved by separate transactions.  A `JobEffect` is what
one complete operation on a job does to both tables; every command, callback and restart is
a sequence of effects, and the invariants follow from the effects.

## Main definitions

* `JobEffect`, `JobEffects`
* `JobsPaired` — each job has its product and each product its job

## Main statements

* `JobEffects.paired`, `JobEffects.job_of_terminal`, `JobEffects.product_of_settled`
* `JobEffects.succeeded` — how a job comes to succeed
-/

namespace CubeNano

open Effect

/-! ## Effects -/

/-- The result is what a callback for the job reports. -/
def Reports (rs : List WorkerResult) (key : RequestKey) (state : WorkerResultState)
    (p : WorkerResult → Prop) : Prop :=
  ∃ r ∈ rs, r.requestKey = key ∧ r.state = state ∧ p r

/-- A result carries the product of a job. -/
def Carries (ref : ProductRef) (r : WorkerResult) : Prop :=
  ∃ summary, resultProduct (orDefault r.result []) = .ok (summary, ref)

/-- How an ended job leaves its product: failed, or ready for a `SUCCEEDED` result that carries
it. -/
inductive JobEnd (rs : List WorkerResult) (key : RequestKey) (row : JobRow)
    (product : ProductRow) : Prop
  | failed (state : product.state = .failed)
      (rejected : row.state = .succeeded → Reports rs key .rejected fun _ => True)
  | ready (state : product.state = .ready) (job : row.state = .succeeded)
      (reported : Reports rs key .succeeded (Carries row.productRef))

/-- **What a complete operation on a job does**, given the results reported to it. -/
inductive JobEffect (rs : List WorkerResult) (j j' : SatelliteJournal) : Prop
  /-- Nothing happens to jobs and products. -/
  | same (jobs : j'.jobs = j.jobs) (products : j'.products = j.products)
  /-- A job is admitted with its product. -/
  | admitted (key : RequestKey) (ref : ProductRef)
      (jobs : j.jobs.insert key ⟨.queued, ref, none, none⟩ = some j'.jobs)
      (products : j.products.insert ref ⟨key, .staging, none⟩ = some j'.products)
  /-- An open job goes on. -/
  | moved (key : RequestKey) (row row' : JobRow) (found : j.jobs.find? key = some row)
      (opened : row.state.terminal = false)
      (state : row.state = .queued ∧ row'.state = .running ∨ row'.state = .cancelRequested)
      (ref : row'.productRef = row.productRef)
      (jobs : ∀ k, j'.jobs.find? k = if k = key then some row' else j.jobs.find? k)
      (products : j'.products = j.products)
  /-- An open job ends, and its product with it. -/
  | ended (key : RequestKey) (row row' : JobRow) (product product' : ProductRow)
      (found : j.jobs.find? key = some row) (opened : row.state.terminal = false)
      (terminal : row'.state.terminal = true) (ref : row'.productRef = row.productRef)
      (staged : j.products.find? row.productRef = some product)
      (staging : product.state = .staging) (origin : product'.origin = product.origin)
      (outcome : JobEnd rs key row' product')
      (jobs : ∀ k, j'.jobs.find? k = if k = key then some row' else j.jobs.find? k)
      (products : ∀ r, j'.products.find? r =
        if r = row.productRef then some product' else j.products.find? r)
  /-- A new process ends all open jobs. -/
  | reconciled (jobs : j'.jobs = j.jobs.mapRows fun _ => SatelliteJournal.reconcileJob)
      (products : j'.products = j.products.mapRows fun _ => SatelliteJournal.reconcileProduct)

/-- A sequence of effects. -/
def JobEffects (rs : List WorkerResult) : SatelliteJournal → SatelliteJournal → Prop :=
  Relation.ReflTransGen (JobEffect rs)

/-- The cancellation of a job is noted, or the job has ended. -/
def CancelNoted (key : RequestKey) (j : SatelliteJournal) : Prop :=
  ∃ row, j.jobs.find? key = some row ∧ (row.state = .cancelRequested ∨ row.state.terminal = true)

/-! ## The pairing -/

/-- Each job has its product and each product its job; a product is staging while the job is
open, and ready only for a job that succeeded. -/
structure JobsPaired (j : SatelliteJournal) : Prop where
  product : ∀ key job, j.jobs.find? key = some job →
    ∃ row, j.products.find? job.productRef = some row ∧ row.origin = key
  job : ∀ ref row, j.products.find? ref = some row →
    ∃ job, j.jobs.find? row.origin = some job ∧ job.productRef = ref
  staging : ∀ key job row, j.jobs.find? key = some job →
    j.products.find? job.productRef = some row →
    (row.state = .staging ↔ job.state.terminal = false)
  ready : ∀ key job row, j.jobs.find? key = some job →
    j.products.find? job.productRef = some row → row.state = .ready → job.state = .succeeded

namespace JobsPaired

/-- Two jobs never share a product. -/
theorem productRef_injective {j : SatelliteJournal} (paired : JobsPaired j) {key key' : RequestKey}
    {job job' : JobRow} (found : j.jobs.find? key = some job)
    (found' : j.jobs.find? key' = some job') (same : job.productRef = job'.productRef) :
    key = key' := by
  obtain ⟨row, here, origin⟩ := paired.product key job found
  obtain ⟨row', here', origin'⟩ := paired.product key' job' found'
  rw [same, here'] at here
  cases here
  exact origin.symm.trans origin'

theorem of_same {j j' : SatelliteJournal} (paired : JobsPaired j) (jobs : j'.jobs = j.jobs)
    (products : j'.products = j.products) : JobsPaired j' := by
  refine ⟨?_, ?_, ?_, ?_⟩
  · rw [jobs, products]
    exact paired.product
  · rw [jobs, products]
    exact paired.job
  · rw [jobs, products]
    exact paired.staging
  · rw [jobs, products]
    exact paired.ready

/-- A pairing is a fact about each job with its product. -/
theorem of_rows {j : SatelliteJournal}
    (product : ∀ key job, j.jobs.find? key = some job →
      ∃ row, j.products.find? job.productRef = some row ∧ row.origin = key ∧
        (row.state = .staging ↔ job.state.terminal = false) ∧
        (row.state = .ready → job.state = .succeeded))
    (job : ∀ ref row, j.products.find? ref = some row →
      ∃ job, j.jobs.find? row.origin = some job ∧ job.productRef = ref) : JobsPaired j where
  product key row found := by
    obtain ⟨product, here, origin, -⟩ := product key row found
    exact ⟨product, here, origin⟩
  job := job
  staging key row product' found here' := by
    obtain ⟨product, here, -, staging, -⟩ := product key row found
    rw [here] at here'
    cases here'
    exact staging
  ready key row product' found here' := by
    obtain ⟨product, here, -, -, ready⟩ := product key row found
    rw [here] at here'
    cases here'
    exact ready

/-- Everything a pairing says about one job. -/
theorem row {j : SatelliteJournal} (paired : JobsPaired j) {key : RequestKey} {job : JobRow}
    (found : j.jobs.find? key = some job) :
    ∃ row, j.products.find? job.productRef = some row ∧ row.origin = key ∧
      (row.state = .staging ↔ job.state.terminal = false) ∧
      (row.state = .ready → job.state = .succeeded) := by
  obtain ⟨row, here, origin⟩ := paired.product key job found
  exact ⟨row, here, origin, paired.staging key job row found here, paired.ready key job row found
    here⟩

end JobsPaired

theorem terminal_reconcileJob (row : JobRow) :
    (SatelliteJournal.reconcileJob row).state.terminal = true := by
  unfold SatelliteJournal.reconcileJob
  split
  · assumption
  · rfl

theorem productRef_reconcileJob (row : JobRow) :
    (SatelliteJournal.reconcileJob row).productRef = row.productRef := by
  unfold SatelliteJournal.reconcileJob
  split <;> rfl

theorem origin_reconcileProduct (row : ProductRow) :
    (SatelliteJournal.reconcileProduct row).origin = row.origin := by
  unfold SatelliteJournal.reconcileProduct
  split <;> rfl

theorem reconcileProduct_of_settled {row : ProductRow} (settled : row.state ≠ .staging) :
    SatelliteJournal.reconcileProduct row = row := if_neg settled

theorem reconcileJob_of_terminal {row : JobRow} (terminal : row.state.terminal = true) :
    SatelliteJournal.reconcileJob row = row := if_pos terminal

/-- A reconciled product is not staging, and is ready only if it was. -/
theorem state_reconcileProduct (row : ProductRow) :
    (SatelliteJournal.reconcileProduct row).state ≠ .staging ∧
      ((SatelliteJournal.reconcileProduct row).state = .ready → row.state = .ready) := by
  unfold SatelliteJournal.reconcileProduct
  split
  · exact ⟨by simp, by simp⟩
  · rename_i settled
    exact ⟨settled, id⟩

namespace JobEffect

variable {rs : List WorkerResult} {j j' : SatelliteJournal}

/-- **An effect keeps the pairing.** -/
theorem paired (effect : JobEffect rs j j') (before : JobsPaired j) : JobsPaired j' := by
  cases effect with
  | same jobs products => exact before.of_same jobs products
  | admitted key ref jobs products =>
      have freshJob := Table.fresh_of_insert jobs
      have freshProduct := Table.fresh_of_insert products
      refine .of_rows (fun k job found => ?_) fun r row found => ?_
      · rw [Table.find?_insert jobs] at found
        rw [Table.find?_insert products]
        split at found
        · rename_i same
          cases found
          exact ⟨_, if_pos rfl, same.symm, ⟨fun _ => rfl, fun _ => rfl⟩, by simp⟩
        · obtain ⟨row, here, rest⟩ := before.row found
          have other : job.productRef ≠ ref := by
            rintro same
            rw [same, freshProduct] at here
            cases here
          exact ⟨row, (if_neg other).trans here, rest⟩
      · rw [Table.find?_insert products] at found
        rw [Table.find?_insert jobs]
        split at found
        · rename_i same
          cases found
          exact ⟨_, if_pos rfl, same.symm⟩
        · obtain ⟨job, here, rest⟩ := before.job r row found
          have other : row.origin ≠ key := by
            rintro same
            rw [same, freshJob] at here
            cases here
          exact ⟨job, (if_neg other).trans here, rest⟩
  | moved key row row' found opened state ref jobs products =>
      refine .of_rows (fun k job here => ?_) fun r product here => ?_
      · rw [jobs] at here
        rw [products]
        split at here
        · rename_i same
          cases here
          subst same
          obtain ⟨product, staged, origin, staging, -⟩ := before.row found
          have open' : row'.state.terminal = false := by
            rcases state with ⟨-, state⟩ | state <;> rw [state] <;> rfl
          have inStaging := staging.mpr opened
          refine ⟨product, by rw [ref]; exact staged, origin,
            ⟨fun _ => open', fun _ => inStaging⟩, fun ready => ?_⟩
          rw [inStaging] at ready
          cases ready
        · exact before.row here
      · rw [products] at here
        obtain ⟨job, found', same⟩ := before.job r product here
        rw [jobs]
        by_cases isKey : product.origin = key
        · rw [isKey, found] at found'
          cases found'
          exact ⟨row', if_pos isKey, ref.trans same⟩
        · exact ⟨job, (if_neg isKey).trans found', same⟩
  | ended key row row' product product' found opened terminal ref staged staging origin outcome
      jobs products =>
      obtain ⟨owned, here, ofKey⟩ := before.product key row found
      rw [staged] at here
      cases here
      refine .of_rows (fun k job here => ?_) fun r left here => ?_
      · rw [jobs] at here
        split at here
        · rename_i same
          cases here
          refine ⟨product', ?_, origin.trans (ofKey.trans same.symm), ?_, ?_⟩
          · rw [products, ref, if_pos rfl]
          · rw [terminal]
            constructor
            · intro isStaging
              cases outcome with
              | failed state => rw [state] at isStaging; cases isStaging
              | ready state => rw [state] at isStaging; cases isStaging
            · intro impossible
              cases impossible
          · intro isReady
            cases outcome with
            | failed state => rw [state] at isReady; cases isReady
            | ready state job => exact job
        · rename_i other
          obtain ⟨kept, here', rest⟩ := before.row here
          have otherRef : job.productRef ≠ row.productRef := fun same =>
            other (before.productRef_injective here found same)
          exact ⟨kept, by rw [products, if_neg otherRef, here'], rest⟩
      · rw [products] at here
        split at here
        · rename_i same
          cases here
          exact ⟨row', by rw [jobs, origin, ofKey, if_pos rfl], ref.trans same.symm⟩
        · rename_i other
          obtain ⟨job, found', same⟩ := before.job r left here
          have otherKey : left.origin ≠ key := by
            rintro isKey
            rw [isKey, found] at found'
            cases found'
            exact other same.symm
          exact ⟨job, by rw [jobs, if_neg otherKey, found'], same⟩
  | reconciled jobs products =>
      refine .of_rows (fun k job here => ?_) fun r row here => ?_
      · rw [jobs, Table.find?_mapRows, Option.map_eq_some_iff] at here
        obtain ⟨old, found, rfl⟩ := here
        obtain ⟨row, staged, origin, staging, ready⟩ := before.row found
        have settled := state_reconcileProduct row
        refine ⟨SatelliteJournal.reconcileProduct row, ?_, (origin_reconcileProduct row).trans
          origin, ?_, fun isReady => ?_⟩
        · rw [products, Table.find?_mapRows, productRef_reconcileJob, staged]
          rfl
        · rw [terminal_reconcileJob]
          exact ⟨fun isStaging => absurd isStaging settled.1, fun impossible => by
            cases impossible⟩
        · have succeeded := ready (settled.2 isReady)
          rw [reconcileJob_of_terminal (by rw [succeeded]; rfl)]
          exact succeeded
      · rw [products, Table.find?_mapRows, Option.map_eq_some_iff] at here
        obtain ⟨old, found, rfl⟩ := here
        obtain ⟨job, here', same⟩ := before.job r old found
        refine ⟨SatelliteJournal.reconcileJob job, ?_, (productRef_reconcileJob job).trans same⟩
        rw [jobs, Table.find?_mapRows, origin_reconcileProduct, here']
        rfl

/-- A terminal job stays as it is. -/
theorem job_of_terminal (effect : JobEffect rs j j') {key : RequestKey} {row : JobRow}
    (found : j.jobs.find? key = some row) (terminal : row.state.terminal = true) :
    j'.jobs.find? key = some row := by
  cases effect with
  | same jobs => rw [jobs, found]
  | admitted k ref jobs =>
      rw [Table.find?_insert jobs]
      split
      · rename_i same
        rw [same, Table.fresh_of_insert jobs] at found
        cases found
      · exact found
  | moved k old new here opened state ref jobs =>
      rw [jobs]
      split
      · rename_i same
        rw [same, here] at found
        cases found
        rw [opened] at terminal
        cases terminal
      · exact found
  | ended k old new product product' here opened terminal' ref staged staging origin outcome jobs =>
      rw [jobs]
      split
      · rename_i same
        rw [same, here] at found
        cases found
        rw [opened] at terminal
        cases terminal
      · exact found
  | reconciled jobs =>
      rw [jobs, Table.find?_mapRows, found, Option.map_some, reconcileJob_of_terminal terminal]

/-- A product that is not staging stays as it is. -/
theorem product_of_settled (effect : JobEffect rs j j') {ref : ProductRef} {row : ProductRow}
    (found : j.products.find? ref = some row) (settled : row.state ≠ .staging) :
    j'.products.find? ref = some row := by
  cases effect with
  | same jobs products => rw [products, found]
  | admitted k r jobs products =>
      rw [Table.find?_insert products]
      split
      · rename_i same
        rw [same, Table.fresh_of_insert products] at found
        cases found
      · exact found
  | moved k old new here opened state r jobs products => rw [products, found]
  | ended k old new product product' here opened terminal r staged staging origin outcome jobs
      products =>
      rw [products]
      split
      · rename_i same
        rw [same, staged] at found
        cases found
        exact absurd staging settled
      · exact found
  | reconciled jobs products =>
      rw [products, Table.find?_mapRows, found, Option.map_some,
        reconcileProduct_of_settled settled]

/-- A job that left the queue does not come back to it. -/
theorem not_queued (effect : JobEffect rs j j') {key : RequestKey}
    (left : ∃ row, j.jobs.find? key = some row ∧ row.state ≠ .queued) :
    ∃ row, j'.jobs.find? key = some row ∧ row.state ≠ .queued := by
  obtain ⟨row, found, state⟩ := left
  cases effect with
  | same jobs => exact ⟨row, by rw [jobs, found], state⟩
  | admitted k ref jobs =>
      refine ⟨row, ?_, state⟩
      rw [Table.find?_insert jobs]
      split
      · rename_i same
        rw [same, Table.fresh_of_insert jobs] at found
        cases found
      · exact found
  | moved k old new here opened state' ref jobs =>
      rw [jobs]
      split
      · exact ⟨new, rfl, by rcases state' with ⟨-, state'⟩ | state' <;> rw [state'] <;> simp⟩
      · exact ⟨row, found, state⟩
  | ended k old new product product' here opened terminal ref staged staging origin outcome jobs =>
      rw [jobs]
      split
      · refine ⟨new, rfl, fun queued => ?_⟩
        rw [queued] at terminal
        cases terminal
      · exact ⟨row, found, state⟩
  | reconciled jobs =>
      refine ⟨SatelliteJournal.reconcileJob row, ?_, fun queued => ?_⟩
      · rw [jobs, Table.find?_mapRows, found]
        rfl
      · have terminal := terminal_reconcileJob row
        rw [queued] at terminal
        cases terminal

/-- A job whose cancellation is noted stays so until it ends. -/
theorem cancelNoted (effect : JobEffect rs j j') {key : RequestKey} (noted : CancelNoted key j) :
    CancelNoted key j' := by
  obtain ⟨row, found, state⟩ := noted
  cases effect with
  | same jobs => exact ⟨row, by rw [jobs, found], state⟩
  | admitted k ref jobs =>
      refine ⟨row, ?_, state⟩
      rw [Table.find?_insert jobs]
      split
      · rename_i same
        rw [same, Table.fresh_of_insert jobs] at found
        cases found
      · exact found
  | moved k old new here opened state' ref jobs =>
      unfold CancelNoted
      rw [jobs]
      split
      · rename_i same
        rw [same, here] at found
        cases found
        refine ⟨new, rfl, ?_⟩
        rcases state' with ⟨queued, -⟩ | state'
        · rw [queued] at state
          rcases state with state | state <;> cases state
        · exact .inl state'
      · exact ⟨row, found, state⟩
  | ended k old new product product' here opened terminal ref staged staging origin outcome jobs =>
      unfold CancelNoted
      rw [jobs]
      split
      · exact ⟨new, rfl, .inr terminal⟩
      · exact ⟨row, found, state⟩
  | reconciled jobs =>
      refine ⟨SatelliteJournal.reconcileJob row, ?_, .inr (terminal_reconcileJob row)⟩
      rw [jobs, Table.find?_mapRows, found]
      rfl

/-- **How a job comes to succeed.** -/
theorem succeeded (effect : JobEffect rs j j') {key : RequestKey} {row' : JobRow}
    (open_ : ∀ row, j.jobs.find? key = some row → row.state.terminal = false)
    (found' : j'.jobs.find? key = some row') (state : row'.state = .succeeded) :
    ∃ product', j'.products.find? row'.productRef = some product' ∧
      JobEnd rs key row' product' := by
  have ended_ : row'.state.terminal = true := by rw [state]; rfl
  have old {row : JobRow} (found : j.jobs.find? key = some row)
      (same : row'.state = row.state) : False := by
    have := open_ row found
    rw [← same, ended_] at this
    cases this
  cases effect with
  | same jobs =>
      rw [jobs] at found'
      exact (old found' rfl).elim
  | admitted k ref jobs =>
      rw [Table.find?_insert jobs] at found'
      split at found'
      · cases found'
        cases state
      · exact (old found' rfl).elim
  | moved k before after here opened state' ref jobs =>
      rw [jobs] at found'
      split at found'
      · cases found'
        rcases state' with ⟨-, state'⟩ | state' <;> rw [state'] at state <;> cases state
      · exact (old found' rfl).elim
  | ended k before after product product' here opened terminal ref staged staging origin outcome
      jobs products =>
      rw [jobs] at found'
      split at found'
      · rename_i same
        cases found'
        exact ⟨product', by rw [products, ref, if_pos rfl], same ▸ outcome⟩
      · exact (old found' rfl).elim
  | reconciled jobs =>
      rw [jobs, Table.find?_mapRows, Option.map_eq_some_iff] at found'
      obtain ⟨row, found, rfl⟩ := found'
      unfold SatelliteJournal.reconcileJob at state
      rw [open_ row found] at state
      cases state

end JobEffect

namespace JobEffects

variable {rs : List WorkerResult} {j j' : SatelliteJournal}

/-- **A sequence of effects keeps the pairing.** -/
theorem paired (effects : JobEffects rs j j') (before : JobsPaired j) : JobsPaired j' := by
  induction effects with
  | refl => exact before
  | tail _ effect ih => exact effect.paired ih

/-- A terminal job stays as it is. -/
theorem job_of_terminal (effects : JobEffects rs j j') {key : RequestKey} {row : JobRow}
    (found : j.jobs.find? key = some row) (terminal : row.state.terminal = true) :
    j'.jobs.find? key = some row := by
  induction effects with
  | refl => exact found
  | tail _ effect ih => exact effect.job_of_terminal ih terminal

/-- A product that is not staging stays as it is. -/
theorem product_of_settled (effects : JobEffects rs j j') {ref : ProductRef} {row : ProductRow}
    (found : j.products.find? ref = some row) (settled : row.state ≠ .staging) :
    j'.products.find? ref = some row := by
  induction effects with
  | refl => exact found
  | tail _ effect ih => exact effect.product_of_settled ih settled

/-- A job that left the queue does not come back to it. -/
theorem not_queued (effects : JobEffects rs j j') {key : RequestKey}
    (left : ∃ row, j.jobs.find? key = some row ∧ row.state ≠ .queued) :
    ∃ row, j'.jobs.find? key = some row ∧ row.state ≠ .queued := by
  induction effects with
  | refl => exact left
  | tail _ effect ih => exact effect.not_queued ih

/-- A job whose cancellation is noted stays so until it ends. -/
theorem cancelNoted (effects : JobEffects rs j j') {key : RequestKey} (noted : CancelNoted key j) :
    CancelNoted key j' := by
  induction effects with
  | refl => exact noted
  | tail _ effect ih => exact effect.cancelNoted ih

/-- **How a job comes to succeed**: by a result reported meanwhile. -/
theorem succeeded (effects : JobEffects rs j j') (before : JobsPaired j) {key : RequestKey}
    {row' : JobRow} (open_ : ∀ row, j.jobs.find? key = some row → row.state.terminal = false)
    (found' : j'.jobs.find? key = some row') (state : row'.state = .succeeded) :
    ∃ product', j'.products.find? row'.productRef = some product' ∧
      JobEnd rs key row' product' := by
  induction effects with
  | refl =>
      have := open_ row' found'
      rw [state] at this
      cases this
  | @tail j₁ j₂ effects effect ih =>
      by_cases opened : ∀ row, j₁.jobs.find? key = some row → row.state.terminal = false
      · exact effect.succeeded opened found' state
      · simp only [not_forall, Bool.not_eq_false] at opened
        obtain ⟨row, found, terminal⟩ := opened
        have stays := effect.job_of_terminal found terminal
        rw [found'] at stays
        cases stays
        obtain ⟨product, here, outcome⟩ := ih found
        refine ⟨product, effect.product_of_settled here fun staging => ?_, outcome⟩
        cases outcome with
        | failed failed => rw [failed] at staging; cases staging
        | ready ready => rw [ready] at staging; cases staging

end JobEffects

end CubeNano

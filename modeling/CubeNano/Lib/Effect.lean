import Mathlib.Logic.Basic

/-!
# Pre- and postconditions of effectful programs

`EStateM ε σ` programs keep the state they reached when they raise, as a mutable
object does.  `Effect.Triple P x Q E` says of a program `x` started in a state
with `P`: if it returns, `Q` holds of the value and the state reached; if it
raises, `E` does.  One rule per program constructor derives a triple from the
triples of the parts.  `Effect.Keeps I x` is the triple of an invariant.
-/

universe u

namespace Effect

variable {ε σ α β : Type u}

/-- Partial correctness with an exceptional postcondition. -/
def Triple (P : σ → Prop) (x : EStateM ε σ α) (Q : α → σ → Prop) (E : ε → σ → Prop) : Prop :=
  ∀ s, P s → match x s with
    | .ok a t => Q a t
    | .error e t => E e t

/-- An invariant that a program keeps however it ends. -/
def Keeps (I : σ → Prop) (x : EStateM ε σ α) : Prop := Triple I x (fun _ => I) (fun _ => I)

/-- The state a program ends in, however it ends. -/
def finalState : EStateM.Result ε σ α → σ
  | .ok _ s => s
  | .error _ s => s

@[simp] theorem finalState_ok (a : α) (s : σ) :
    finalState (.ok a s : EStateM.Result ε σ α) = s := rfl

@[simp] theorem finalState_error (e : ε) (s : σ) :
    finalState (.error e s : EStateM.Result ε σ α) = s := rfl

/-- A property that holds however the program ends holds of the final state. -/
theorem Triple.finalState {P I : σ → Prop} {x : EStateM ε σ α}
    (triple : Triple P x (fun _ => I) (fun _ => I)) {s : σ} (h : P s) : I (finalState (x s)) := by
  have this := triple s h
  cases result : x s with
  | ok a t =>
      rw [result] at this
      exact this
  | error e t =>
      rw [result] at this
      exact this

theorem Keeps.finalState {I : σ → Prop} {x : EStateM ε σ α} (keeps : Keeps I x) {s : σ}
    (h : I s) : I (finalState (x s)) := Triple.finalState keeps h

/-- Whether a program returned. -/
def isOk : EStateM.Result ε σ α → Bool
  | .ok _ _ => true
  | .error _ _ => false

/-- A procedure that returned. -/
theorem eq_ok_of_isOk {result : EStateM.Result ε σ PUnit} (ok : isOk result = true) :
    result = .ok ⟨⟩ (finalState result) := by
  cases result with
  | ok a s => rfl
  | error e s => cases ok

/-! ## Execution -/

theorem get_bind (f : σ → EStateM ε σ β) (s : σ) :
    (MonadState.get >>= f : EStateM ε σ β) s = f s s := rfl

theorem modify_bind (g : σ → σ) (f : PUnit → EStateM ε σ β) (s : σ) :
    (modify g >>= f : EStateM ε σ β) s = f ⟨⟩ (g s) := rfl

theorem bind_of_ok {x : EStateM ε σ α} {f : α → EStateM ε σ β} {s t : σ} {a : α}
    (first : x s = .ok a t) : (x >>= f) s = f a t := by
  change EStateM.bind x f s = f a t
  unfold EStateM.bind
  rw [first]

theorem bind_of_error {x : EStateM ε σ α} {f : α → EStateM ε σ β} {s t : σ} {e : ε}
    (first : x s = .error e t) : (x >>= f) s = .error e t := by
  change EStateM.bind x f s = .error e t
  unfold EStateM.bind
  rw [first]

theorem tryCatch_of_ok {x : EStateM ε σ α} {handler : ε → EStateM ε σ α} {s t : σ} {a : α}
    (returned : x s = .ok a t) : tryCatch x handler s = .ok a t := by
  change EStateM.tryCatch x handler s = _
  unfold EStateM.tryCatch
  rw [returned]

theorem tryCatch_of_error {x : EStateM ε σ α} {handler : ε → EStateM ε σ α} {s t : σ} {e : ε}
    (raised : x s = .error e t) : tryCatch x handler s = handler e t := by
  change EStateM.tryCatch x handler s = _
  unfold EStateM.tryCatch
  rw [raised]
  rfl

/-- A sequence that returned came from a first part that returned. -/
theorem bind_eq_ok_iff {x : EStateM ε σ α} {f : α → EStateM ε σ β} {s u : σ} {b : β} :
    (x >>= f) s = .ok b u ↔ ∃ a t, x s = .ok a t ∧ f a t = .ok b u := by
  change EStateM.bind x f s = .ok b u ↔ _
  unfold EStateM.bind
  cases x s with
  | ok a t =>
      constructor
      · exact fun h => ⟨a, t, rfl, h⟩
      · rintro ⟨a', t', same, h⟩
        cases same
        exact h
  | error e t =>
      constructor
      · intro h
        cases h
      · rintro ⟨a, t, h, -⟩
        cases h

/-- What is made of the value of a program does not change its final state. -/
theorem finalState_bind_value (x : EStateM ε σ α) (f : α → β) (s : σ) :
    finalState ((x >>= fun a => pure (f a)) s) = finalState (x s) := by
  cases result : x s with
  | ok a t =>
      rw [bind_of_ok result]
      rfl
  | error e t =>
      rw [bind_of_error result]
      rfl

theorem finalState_bind_pure (x : EStateM ε σ α) (b : β) (s : σ) :
    finalState ((x >>= fun _ => pure b) s) = finalState (x s) :=
  finalState_bind_value x (fun _ => b) s

namespace Triple

variable {P P' : σ → Prop} {Q Q' : α → σ → Prop} {E E' : ε → σ → Prop}

theorem weaken {x : EStateM ε σ α} (h : Triple P' x Q' E') (pre : ∀ s, P s → P' s)
    (post : ∀ a s, Q' a s → Q a s) (exceptional : ∀ e s, E' e s → E e s) : Triple P x Q E := by
  intro s hs
  have this := h s (pre s hs)
  cases result : x s with
  | ok a t =>
      rw [result] at this
      exact post a t this
  | error e t =>
      rw [result] at this
      exact exceptional e t this

theorem pure {a : α} (h : ∀ s, P s → Q a s) : Triple P (Pure.pure a : EStateM ε σ α) Q E := h

theorem raise {e : ε} (h : ∀ s, P s → E e s) : Triple P (throw e : EStateM ε σ α) Q E := h

theorem get {Q : σ → σ → Prop} (h : ∀ s, P s → Q s s) :
    Triple P (MonadState.get : EStateM ε σ σ) Q E := h

theorem set {s' : σ} {Q : PUnit → σ → Prop} (h : ∀ s, P s → Q ⟨⟩ s') :
    Triple P (MonadState.set s' : EStateM ε σ PUnit) Q E := h

theorem modify {f : σ → σ} {Q : PUnit → σ → Prop} (h : ∀ s, P s → Q ⟨⟩ (f s)) :
    Triple P (modify f : EStateM ε σ PUnit) Q E := h

theorem bind {x : EStateM ε σ α} {f : α → EStateM ε σ β} {R : α → σ → Prop}
    {Q : β → σ → Prop} (first : Triple P x R E) (rest : ∀ a, Triple (R a) (f a) Q E) :
    Triple P (x >>= f) Q E := by
  intro s hs
  have this := first s hs
  change match EStateM.bind x f s with
    | .ok a t => Q a t
    | .error e t => E e t
  unfold EStateM.bind
  cases result : x s with
  | ok a t =>
      rw [result] at this
      exact rest a t this
  | error e t =>
      rw [result] at this
      exact this

/-- A sequence whose rest is followed from each state the first part leaves. -/
theorem bindKnown {x : EStateM ε σ α} {f : α → EStateM ε σ β} {R : α → σ → Prop}
    {Q : β → σ → Prop} (first : Triple P x R E)
    (rest : ∀ a t, R a t → Triple (fun s => s = t) (f a) Q E) : Triple P (x >>= f) Q E :=
  bind first fun a t ht => rest a t ht t rfl

theorem and {x : EStateM ε σ α} {Q' : α → σ → Prop} {E' : ε → σ → Prop} (h : Triple P x Q E)
    (h' : Triple P x Q' E') : Triple P x (fun a s => Q a s ∧ Q' a s) fun e s => E e s ∧ E' e s := by
  intro s hs
  have first := h s hs
  have second := h' s hs
  cases result : x s with
  | ok a t =>
      rw [result] at first second
      exact ⟨first, second⟩
  | error e t =>
      rw [result] at first second
      exact ⟨first, second⟩

/-- A fact of the precondition that does not mention the state. -/
theorem ofFact {x : EStateM ε σ α} {F : Prop} (h : F → Triple P x Q E) :
    Triple (fun s => F ∧ P s) x Q E := fun s hs => h hs.1 s hs.2

theorem ofFactRight {x : EStateM ε σ α} {F : Prop} (h : F → Triple P x Q E) :
    Triple (fun s => P s ∧ F) x Q E := fun s hs => h hs.2 s hs.1

/-- A program that reads its state starts from a known one. -/
theorem withState {f : σ → EStateM ε σ α}
    (h : ∀ s, P s → Triple (fun t => t = s) (f s) Q E) :
    Triple P (MonadState.get >>= f) Q E := fun s hs => h s hs s rfl

/-- A program that reads its state keeps what is known of it. -/
theorem reading {f : σ → EStateM ε σ α} (h : ∀ s, P s → Triple P (f s) Q E) :
    Triple P (MonadState.get >>= f) Q E := fun s hs => h s hs s hs

theorem tryCatch {x : EStateM ε σ α} {handler : ε → EStateM ε σ α} {R : ε → σ → Prop}
    (body : Triple P x Q R) (handled : ∀ e, Triple (R e) (handler e) Q E) :
    Triple P (MonadExcept.tryCatch x handler) Q E := by
  intro s hs
  have this := body s hs
  change match EStateM.tryCatch x handler s with
    | .ok a t => Q a t
    | .error e t => E e t
  unfold EStateM.tryCatch
  cases result : x s with
  | ok a t =>
      rw [result] at this
      exact this
  | error e t =>
      rw [result] at this
      exact handled e t this

end Triple

namespace Keeps

variable {I : σ → Prop}

theorem pure (a : α) : Keeps I (Pure.pure a : EStateM ε σ α) := Triple.pure fun _ h => h

theorem modify {f : σ → σ} (h : ∀ s, I s → I (f s)) :
    Keeps I (modify f : EStateM ε σ PUnit) := Triple.modify h

theorem bind {x : EStateM ε σ α} {f : α → EStateM ε σ β} (first : Keeps I x)
    (rest : ∀ a, Keeps I (f a)) : Keeps I (x >>= f) := Triple.bind first rest

theorem raise (e : ε) : Keeps I (throw e : EStateM ε σ α) := Triple.raise fun _ h => h

/-- A program that reads its state first. -/
theorem getBind {f : σ → EStateM ε σ α} (rest : ∀ s, Keeps I (f s)) :
    Keeps I (MonadState.get >>= f) := fun s h => rest s s h

theorem tryCatch {x : EStateM ε σ α} {handler : ε → EStateM ε σ α} (body : Keeps I x)
    (handled : ∀ e, Keeps I (handler e)) : Keeps I (MonadExcept.tryCatch x handler) :=
  Triple.tryCatch body handled

end Keeps

/-! ## Relations between the states -/

/-- A program that moves its state along a relation, however it ends. -/
def Moves (R : σ → σ → Prop) (x : EStateM ε σ α) : Prop := ∀ s, R s (finalState (x s))

namespace Moves

variable {R : σ → σ → Prop}

theorem pure (refl : ∀ s, R s s) (a : α) : Moves R (Pure.pure a : EStateM ε σ α) := refl

theorem modify {f : σ → σ} (moves : ∀ s, R s (f s)) :
    Moves R (modify f : EStateM ε σ PUnit) := moves

/-- A program that reads its state first. -/
theorem getBind {f : σ → EStateM ε σ α} (rest : ∀ s, R s (Effect.finalState (f s s))) :
    Moves R (MonadState.get >>= f) := rest

theorem bind (trans : ∀ {s t u}, R s t → R t u → R s u) {x : EStateM ε σ α}
    {f : α → EStateM ε σ β} (first : Moves R x) (rest : ∀ a, Moves R (f a)) :
    Moves R (x >>= f) := by
  intro s
  have moved := first s
  cases ran : x s with
  | ok a t =>
      rw [ran] at moved
      rw [bind_of_ok ran]
      exact trans moved (rest a t)
  | error e t =>
      rw [ran] at moved
      rw [bind_of_error ran]
      exact moved

end Moves

end Effect

import CubeNano.Gds.Ledger

/-!
# Request keys

`RequestKeyAllocator` of `gds/request_keys.py`: request ids of 32 bits inside a
ground namespace, and the rotation to a fresh namespace when they are used up.
The draws of the random generator are a stream; a search reports where in the
stream it stopped.

## Main definitions

* `initializeInTransaction`, `rotateIfDrainedInTransaction`, `allocateInTransaction`

## Main statements

* `allocateInTransaction_frame` — an allocation touches the metadata and the
  namespaces only
-/

namespace CubeNano

/-- `AllocatorState`. -/
structure AllocatorState where
  gdsInstallationEpoch : U64
  groundInstanceId : U64
  nextRequestId : ℕ
  namespaceState : NamespaceState
  deriving DecidableEq

/-- `MAX_U32`. -/
def maxU32 : ℕ := 0xFFFFFFFF

namespace Ledger

/-- `_new_unique_u64` from a position of the stream: the first draw that is
neither excluded nor taken, and the position behind it. -/
def newUniqueU64 (draws : ℕ → U64) (position : ℕ) (column : String) (excluded : List U64)
    (taken : U64 → Bool) : Raises (U64 × ℕ) :=
  match (List.range 128).find? fun i =>
      !excluded.contains (draws (position + i)) && !taken (draws (position + i)) with
  | some i => .ok (draws (position + i), position + i + 1)
  | none => ledgerError .requestKeyAllocator
      s!"could not generate a unique {column} after 128 CSPRNG draws"

/-- `_initialize_in_transaction`. -/
def initializeInTransaction (draws : ℕ → U64) (now : ℕ) (l : Ledger) :
    Raises (AllocatorState × Ledger) :=
  match l.metadata with
  | none =>
      if l.namespaces.rows.length ≠ 0 then
        ledgerError .requestKeyAllocator "ground namespace rows exist without gds_metadata"
      else do
        let epoch ← newUniqueU64 draws 0 "gds_installation_epoch" []
          fun candidate => l.namespaces.rows.any fun row => row.2.gdsInstallationEpoch = candidate
        let ground ← newUniqueU64 draws epoch.2 "ground_instance_id" [epoch.1]
          fun candidate => (l.namespaces.find? candidate).isSome
        .ok (⟨epoch.1, ground.1, 1, .active⟩, { l with
          metadata := some ⟨epoch.1, ground.1, none⟩
          namespaces := l.namespaces.set ground.1 ⟨epoch.1, 1, .active, now, none⟩ })
  | some metadata =>
      match l.namespaces.find? metadata.activeGroundInstanceId with
      | none => ledgerError .requestKeyAllocator "active ground namespace is missing"
      | some row =>
          if row.gdsInstallationEpoch ≠ metadata.gdsInstallationEpoch then
            ledgerError .requestKeyAllocator
              "active ground namespace belongs to another installation epoch"
          else if row.state = .retired then
            ledgerError .requestKeyAllocator
              "metadata points at non-active namespace state 'RETIRED'"
          else if decide (row.nextRequestId > maxU32) ≠ decide (row.state = .draining) then
            ledgerError .requestKeyAllocator
              "request allocator wrap marker and namespace state disagree"
          else
            .ok (⟨metadata.gdsInstallationEpoch, metadata.activeGroundInstanceId,
              row.nextRequestId, row.state⟩, l)

/-- A namespace with a nonterminal command or outbox row. -/
def hasNonterminalWork (l : Ledger) (ground : U64) : Bool :=
  (l.commands.rows.any fun row =>
      row.1.groundInstanceId = ground && row.2.commandState.nonterminal) ||
    l.outbox.rows.any fun row => row.1.groundInstanceId = ground && row.2.state.nonterminal

/-- `_rotate_if_drained_in_transaction`. -/
def rotateIfDrainedInTransaction (draws : ℕ → U64) (now : ℕ) (state : AllocatorState)
    (l : Ledger) : Raises (AllocatorState × Ledger) :=
  if state.nextRequestId ≤ maxU32 then .ok (state, l)
  else if l.hasNonterminalWork state.groundInstanceId then
    ledgerError .requestNamespaceDraining
      "request_id exhausted; old namespace has nonterminal work"
  else do
    let ground ← newUniqueU64 draws 0 "ground_instance_id" [state.gdsInstallationEpoch]
      fun candidate => (l.namespaces.find? candidate).isSome
    match l.namespaces.find? state.groundInstanceId with
    | none => ledgerError .requestKeyAllocator "exhausted namespace is not DRAINING"
    | some old =>
        if old.state ≠ .draining then
          ledgerError .requestKeyAllocator "exhausted namespace is not DRAINING"
        else if now < old.createdAtUs then
          integrityError "CHECK constraint failed: retired_at_us >= created_at_us"
        else
          let retired := l.namespaces.set state.groundInstanceId
            { old with state := .retired, retiredAtUs := some now }
          .ok (⟨state.gdsInstallationEpoch, ground.1, 1, .active⟩, { l with
            metadata := l.metadata.map fun m => { m with activeGroundInstanceId := ground.1 }
            namespaces :=
              retired.set ground.1 ⟨state.gdsInstallationEpoch, 1, .active, now, none⟩ })

/-- `allocate_in_transaction`. -/
def allocateInTransaction (draws : ℕ → U64) (now : ℕ) (l : Ledger) :
    Raises (RequestKey × Ledger) := do
  let initial ← initializeInTransaction draws now l
  let current ← (if initial.1.nextRequestId > maxU32 then
    rotateIfDrainedInTransaction draws now initial.1 initial.2 else .ok initial)
  let state := current.1
  if fits : 1 ≤ state.nextRequestId ∧ state.nextRequestId ≤ maxU32 then
    let next := state.nextRequestId + 1
    match current.2.namespaces.find? state.groundInstanceId with
    | none => ledgerError .requestKeyAllocator "request key allocator state changed unexpectedly"
    | some row =>
        if row.nextRequestId ≠ state.nextRequestId ∨ row.state ≠ state.namespaceState then
          ledgerError .requestKeyAllocator "request key allocator state changed unexpectedly"
        else
          .ok (⟨state.groundInstanceId,
              ⟨state.nextRequestId, by
                have := fits.2
                unfold maxU32 at this
                omega⟩⟩,
            { current.2 with
              namespaces := current.2.namespaces.set state.groundInstanceId
                { row with
                  nextRequestId := next
                  state := if next > maxU32 then .draining else .active } })
  else ledgerError .requestKeyAllocator "allocator produced an invalid request_id"

/-! ## What an allocation touches -/

/-- The tables other than the metadata and the namespaces are the same. -/
structure SameRecords (l l' : Ledger) : Prop where
  commands : l'.commands = l.commands
  outbox : l'.outbox = l.outbox
  attempts : l'.attempts = l.attempts
  nextAttemptId : l'.nextAttemptId = l.nextAttemptId

namespace SameRecords

theorem refl (l : Ledger) : SameRecords l l := ⟨rfl, rfl, rfl, rfl⟩

theorem trans {l l' l'' : Ledger} (first : SameRecords l l') (second : SameRecords l' l'') :
    SameRecords l l'' :=
  ⟨second.commands.trans first.commands, second.outbox.trans first.outbox,
    second.attempts.trans first.attempts, second.nextAttemptId.trans first.nextAttemptId⟩

end SameRecords

theorem initializeInTransaction_frame {draws : ℕ → U64} {now : ℕ} {l l' : Ledger}
    {state : AllocatorState} (done : initializeInTransaction draws now l = .ok (state, l')) :
    SameRecords l l' := by
  unfold initializeInTransaction at done
  split at done
  · split at done
    · cases done
    · obtain ⟨epoch, -, done⟩ := bind_eq_ok_iff.mp done
      obtain ⟨ground, -, done⟩ := bind_eq_ok_iff.mp done
      cases done
      exact ⟨rfl, rfl, rfl, rfl⟩
  · split at done
    · cases done
    split at done
    · cases done
    split at done
    · cases done
    split at done
    · cases done
    · cases done
      exact .refl l

theorem rotateIfDrainedInTransaction_frame {draws : ℕ → U64} {now : ℕ} {l l' : Ledger}
    {state state' : AllocatorState}
    (done : rotateIfDrainedInTransaction draws now state l = .ok (state', l')) :
    SameRecords l l' := by
  unfold rotateIfDrainedInTransaction at done
  split at done
  · cases done
    exact .refl l
  split at done
  · cases done
  obtain ⟨ground, -, done⟩ := bind_eq_ok_iff.mp done
  split at done
  · cases done
  split at done
  · cases done
  split at done
  · cases done
  · cases done
    exact ⟨rfl, rfl, rfl, rfl⟩

/-- An allocation leaves the records of the requests alone. -/
theorem allocateInTransaction_frame {draws : ℕ → U64} {now : ℕ} {l l' : Ledger} {key : RequestKey}
    (done : allocateInTransaction draws now l = .ok (key, l')) : SameRecords l l' := by
  obtain ⟨⟨state, first⟩, initialized, done⟩ := bind_eq_ok_iff.mp done
  obtain ⟨⟨state', second⟩, rotated, done⟩ := bind_eq_ok_iff.mp done
  have rotation : SameRecords first second := by
    split at rotated
    · exact rotateIfDrainedInTransaction_frame rotated
    · cases rotated
      exact .refl first
  have records := (initializeInTransaction_frame initialized).trans rotation
  simp only at done
  split at done
  · split at done
    · cases done
    split at done
    · cases done
    · cases done
      exact records.trans ⟨rfl, rfl, rfl, rfl⟩
  · cases done

end Ledger

end CubeNano

import Mathlib.Data.List.Basic

/-!
# Record layouts

A wire format that is a sequence of named fields, each with a codec of its own.
Writing takes the fields from a record by name, so a record may have more than
the layout names; reading gives exactly the fields of the layout.

## Main definitions

* `FieldCodec`, `FieldCodec.Lawful` — a codec and the two directions of its round trip
* `writeAll`, `readAll` — a layout

## Main statements

* `readAll_writeAll`, `writeAll_of_readAll` — the two directions for a layout
-/

namespace CubeNano

universe u

variable {ε V K β : Type u}

/-- A codec of one field.  `only` holds of a value without content that the wire
does not carry. -/
structure FieldCodec (ε V β : Type u) where
  write : V → Except ε (List β)
  read : List β → Except ε (V × List β)
  only : V → Prop

/-- What was written is read back, as the same value if the wire carries all of
it; what was read is written as the bytes it was read from. -/
structure FieldCodec.Lawful (same : V → V → Prop) (c : FieldCodec ε V β) : Prop where
  reads : ∀ v bytes rest, c.write v = .ok bytes →
    ∃ w, c.read (bytes ++ rest) = .ok (w, rest) ∧ (c.only v → same v w)
  writes : ∀ data w rest, c.read data = .ok (w, rest) →
    ∃ bytes, c.write w = .ok bytes ∧ data = bytes ++ rest

/-- The fields of a record, one after another. -/
def writeAll : List (K × FieldCodec ε V β) → (K → V) → Except ε (List β)
  | [], _ => .ok []
  | (name, c) :: layout, get => do
      let bytes ← c.write (get name)
      let others ← writeAll layout get
      .ok (bytes ++ others)

/-- The fields read from a wire form, and what follows them. -/
def readAll : List (K × FieldCodec ε V β) → List β → Except ε (List (K × V) × List β)
  | [], data => .ok ([], data)
  | (name, c) :: layout, data => do
      let field ← c.read data
      let others ← readAll layout field.2
      .ok ((name, field.1) :: others.1, others.2)

theorem except_bind_eq_ok {A B : Type u} {first : Except ε A} {next : A → Except ε B} {value : B} :
    (first >>= next) = .ok value ↔ ∃ mid, first = .ok mid ∧ next mid = .ok value := by
  cases first with
  | error e =>
      constructor
      · intro h
        cases h
      · rintro ⟨mid, h, -⟩
        cases h
  | ok mid =>
      constructor
      · intro h
        exact ⟨mid, rfl, h⟩
      · rintro ⟨mid', h, h'⟩
        cases h
        exact h'

/-- Every field of a written record could be written. -/
theorem write_of_writeAll {layout : List (K × FieldCodec ε V β)} {get : K → V} {bytes : List β}
    (written : writeAll layout get = .ok bytes) :
    ∀ field ∈ layout, ∃ part, field.2.write (get field.1) = .ok part := by
  induction layout generalizing bytes with
  | nil => exact List.forall_mem_nil _
  | cons field layout ih =>
      obtain ⟨name, c⟩ := field
      obtain ⟨first, writtenFirst, written⟩ := except_bind_eq_ok.mp written
      obtain ⟨others, writtenOthers, written⟩ := except_bind_eq_ok.mp written
      exact List.forall_mem_cons.mpr ⟨⟨first, writtenFirst⟩, ih writtenOthers⟩

/-- Short fields make a short record. -/
theorem length_writeAll_le {bound : ℕ} {layout : List (K × FieldCodec ε V β)} {get : K → V}
    {bytes : List β} (short : ∀ field ∈ layout, ∀ v part, field.2.write v = .ok part →
      part.length ≤ bound) (written : writeAll layout get = .ok bytes) :
    bytes.length ≤ layout.length * bound := by
  induction layout generalizing bytes with
  | nil =>
      cases written
      exact Nat.zero_le _
  | cons field layout ih =>
      obtain ⟨name, c⟩ := field
      obtain ⟨first, writtenFirst, written⟩ := except_bind_eq_ok.mp written
      obtain ⟨others, writtenOthers, written⟩ := except_bind_eq_ok.mp written
      cases written
      have head : first.length ≤ bound := short (name, c) (List.mem_cons_self ..) _ _ writtenFirst
      have tail := ih (fun field mem => short field (List.mem_cons_of_mem _ mem)) writtenOthers
      rw [List.length_append, List.length_cons, Nat.succ_mul]
      omega

/-- **Reading a written record.**  The fields come back under their names. -/
theorem readAll_writeAll {same : V → V → Prop} {layout : List (K × FieldCodec ε V β)}
    (lawful : ∀ field ∈ layout, field.2.Lawful same) {get : K → V} {bytes : List β}
    (written : writeAll layout get = .ok bytes) (rest : List β) :
    ∃ fields, readAll layout (bytes ++ rest) = .ok (fields, rest) ∧
      fields.map Prod.fst = layout.map Prod.fst ∧
      ∀ field ∈ fields, ∃ c, (field.1, c) ∈ layout ∧
        (c.only (get field.1) → same (get field.1) field.2) := by
  induction layout generalizing bytes with
  | nil =>
      cases written
      exact ⟨[], rfl, rfl, List.forall_mem_nil _⟩
  | cons field layout ih =>
      obtain ⟨name, c⟩ := field
      obtain ⟨first, writtenFirst, written⟩ := except_bind_eq_ok.mp written
      obtain ⟨others, writtenOthers, written⟩ := except_bind_eq_ok.mp written
      cases written
      obtain ⟨w, read, keeps⟩ := (lawful (name, c) (List.mem_cons_self ..)).reads _ _
        (others ++ rest) writtenFirst
      obtain ⟨fields, readOthers, names, matched⟩ :=
        ih (fun field mem => lawful field (List.mem_cons_of_mem _ mem)) writtenOthers
      refine ⟨(name, w) :: fields, ?_, by rw [List.map_cons, List.map_cons, names], ?_⟩
      · rw [List.append_assoc]
        exact except_bind_eq_ok.mpr ⟨_, read, except_bind_eq_ok.mpr ⟨_, readOthers, rfl⟩⟩
      · refine List.forall_mem_cons.mpr ⟨⟨c, List.mem_cons_self .., keeps⟩, fun field mem => ?_⟩
        obtain ⟨c', inside, keeps'⟩ := matched field mem
        exact ⟨c', List.mem_cons_of_mem _ inside, keeps'⟩

/-- **Writing a record that was read.**  Any record with these fields is written
as the bytes they were read from. -/
theorem writeAll_of_readAll {same : V → V → Prop} {layout : List (K × FieldCodec ε V β)}
    (lawful : ∀ field ∈ layout, field.2.Lawful same) {data rest : List β} {fields : List (K × V)}
    (read : readAll layout data = .ok (fields, rest)) :
    fields.map Prod.fst = layout.map Prod.fst ∧ ∃ bytes, data = bytes ++ rest ∧
      ∀ get : K → V, (∀ field ∈ fields, get field.1 = field.2) →
        writeAll layout get = .ok bytes := by
  induction layout generalizing data fields with
  | nil =>
      cases read
      exact ⟨rfl, [], rfl, fun _ _ => rfl⟩
  | cons field layout ih =>
      obtain ⟨name, c⟩ := field
      obtain ⟨⟨w, later⟩, readFirst, read⟩ := except_bind_eq_ok.mp read
      obtain ⟨⟨others, rest'⟩, readOthers, read⟩ := except_bind_eq_ok.mp read
      cases read
      obtain ⟨first, writtenFirst, split⟩ :=
        (lawful (name, c) (List.mem_cons_self ..)).writes _ _ _ readFirst
      obtain ⟨names, bytes, splitOthers, writes⟩ :=
        ih (fun field mem => lawful field (List.mem_cons_of_mem _ mem)) readOthers
      simp only at splitOthers
      refine ⟨by rw [List.map_cons, List.map_cons, names], first ++ bytes, ?_, ?_⟩
      · rw [split, splitOthers, List.append_assoc]
      · intro get gives
        have value : get name = w := gives (name, w) (List.mem_cons_self ..)
        have written := writes get fun field mem => gives field (List.mem_cons_of_mem _ mem)
        refine except_bind_eq_ok.mpr ⟨first, ?_, except_bind_eq_ok.mpr ⟨bytes, written, rfl⟩⟩
        rw [value]
        exact writtenFirst

end CubeNano

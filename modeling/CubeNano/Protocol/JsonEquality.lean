import CubeNano.Protocol.JsonOrder

/-!
# Equal JSON values

Two JSON values are equal when they differ in the order of their members at most, at every
depth.  Sorting the members of every object by a total order of the names gives each value a
form that is the same for equal values.

## Main definitions

* `SameJson` — equality of JSON values
* `TextOrder`, `TextOrder.arrange` — the form with sorted members
* `Keyed` — objects as Python has them, with distinct strings as keys

## Main statements

* `TextOrder.arrange_eq_of_sameJson`, `TextOrder.sameJson_of_arrange_eq` — the form decides
  equality
-/

namespace CubeNano

/-! ## Equality -/

mutual

/-- The values are equal up to the order of members. -/
def SameJson : PyValue → PyValue → Prop
  | .none, w => w = .none
  | .bool value, w => w = .bool value
  | .int n, w => w = .int n
  | .float finite literal, w => w = .float finite literal
  | .bytes data, w => w = .bytes data
  | .str text, w => w = .str text
  | .list items, w => ∃ items', w = .list items' ∧ SameArray items items'
  | .dict entries, w =>
      ∃ entries', w = .dict entries' ∧ entries.length = entries'.length ∧
        SameObject entries entries'

/-- The items are equal one by one. -/
def SameArray : List PyValue → List PyValue → Prop
  | [], items' => items' = []
  | item :: rest, items' =>
      ∃ item' rest', items' = item' :: rest' ∧ SameJson item item' ∧ SameArray rest rest'

/-- Every member has an equal one under its name. -/
def SameObject : List (PyValue × PyValue) → List (PyValue × PyValue) → Prop
  | [], _ => True
  | (key, value) :: rest, entries' =>
      (∃ value', (key, value') ∈ entries' ∧ SameJson value value') ∧ SameObject rest entries'

end

theorem sameObject_iff {entries entries' : List (PyValue × PyValue)} :
    SameObject entries entries' ↔ ∀ entry ∈ entries, ∃ value', (entry.1, value') ∈ entries' ∧
      SameJson entry.2 value' := by
  induction entries with
  | nil => simp [SameObject]
  | cons entry rest ih => rw [SameObject, ih, List.forall_mem_cons]

mutual

/-- Every object has distinct keys, which are strings of a kind. -/
def Keyed (Name : Text → Prop) : PyValue → Prop
  | .list items => KeyedItems Name items
  | .dict entries => KeyedEntries Name entries
  | .none => True
  | .bool _ => True
  | .int _ => True
  | .float _ _ => True
  | .bytes _ => True
  | .str _ => True

/-- Every item is such a value. -/
def KeyedItems (Name : Text → Prop) : List PyValue → Prop
  | [] => True
  | item :: rest => Keyed Name item ∧ KeyedItems Name rest

/-- Every member is such a value, under a name of its own. -/
def KeyedEntries (Name : Text → Prop) : List (PyValue × PyValue) → Prop
  | [] => True
  | (key, value) :: rest =>
      (∃ name, key = .str name ∧ Name name) ∧ Keyed Name value ∧ KeyedEntries Name rest ∧
        ∀ entry ∈ rest, entry.1 ≠ key

end

theorem keyedEntries_iff {Name : Text → Prop} {entries : List (PyValue × PyValue)} :
    KeyedEntries Name entries ↔
      (∀ entry ∈ entries, (∃ name, entry.1 = .str name ∧ Name name) ∧ Keyed Name entry.2) ∧
        (entries.map Prod.fst).Nodup := by
  induction entries with
  | nil => simp [KeyedEntries]
  | cons entry rest ih =>
      rw [KeyedEntries, ih, List.forall_mem_cons, List.map_cons, List.nodup_cons]
      have fresh : (∀ other ∈ rest, other.1 ≠ entry.1) ↔ entry.1 ∉ rest.map Prod.fst := by
        rw [List.mem_map]
        exact ⟨fun differs ⟨other, mem, same⟩ => differs other mem same,
          fun absent other mem same => absent ⟨other, mem, same⟩⟩
      rw [fresh]
      tauto

/-! ## Sorted members -/

/-- The name of a member; only strings are names. -/
def memberName (entry : PyValue × PyValue) : Text :=
  match entry.1 with
  | .str name => name
  | _ => []

/-- A writer writes each member with its name. -/
theorem StringWriter.members_eq_map (w : StringWriter) (entries : List (PyValue × PyValue)) :
    w.members entries =
      entries.map fun entry => w.quote (memberName entry) ++ 0x3A :: w.value entry.2 := by
  induction entries with
  | nil => rfl
  | cons entry rest ih =>
      obtain ⟨key, value⟩ := entry
      cases key <;> exact congrArg (List.cons _) ih

/-- A total order of the names of a kind. -/
structure TextOrder where
  le : Text → Text → Bool
  Name : Text → Prop
  total : ∀ t t', le t t' = true ∨ le t' t = true
  trans : ∀ t t' t'', le t t' = true → le t' t'' = true → le t t'' = true
  antisymm : ∀ t t', Name t → Name t' → le t t' = true → le t' t = true → t = t'

namespace TextOrder

/-- The members in the order of their names. -/
def sortEntries (o : TextOrder) (entries : List (PyValue × PyValue)) : List (PyValue × PyValue) :=
  entries.insertionSort fun entry entry' => o.le (memberName entry) (memberName entry') = true

mutual

/-- The value with the members of every object sorted. -/
def arrange (o : TextOrder) : PyValue → PyValue
  | .list items => .list (o.arrangeItems items)
  | .dict entries => .dict (o.sortEntries (o.arrangeEntries entries))
  | .none => .none
  | .bool value => .bool value
  | .int n => .int n
  | .float finite literal => .float finite literal
  | .bytes data => .bytes data
  | .str text => .str text

/-- The items, arranged. -/
def arrangeItems (o : TextOrder) : List PyValue → List PyValue
  | [] => []
  | item :: rest => o.arrange item :: o.arrangeItems rest

/-- The members with their values arranged. -/
def arrangeEntries (o : TextOrder) : List (PyValue × PyValue) → List (PyValue × PyValue)
  | [] => []
  | (key, value) :: rest => (key, o.arrange value) :: o.arrangeEntries rest

end

variable {o : TextOrder}

theorem arrangeEntries_eq_map (entries : List (PyValue × PyValue)) :
    o.arrangeEntries entries = entries.map fun entry => (entry.1, o.arrange entry.2) := by
  induction entries with
  | nil => rfl
  | cons entry rest ih => exact congrArg (List.cons _) ih

theorem sortEntries_perm (entries : List (PyValue × PyValue)) :
    (o.sortEntries entries).Perm entries := List.perm_insertionSort _ entries

theorem pairwise_sortEntries (o : TextOrder) (entries : List (PyValue × PyValue)) :
    (o.sortEntries entries).Pairwise fun entry entry' =>
      o.le (memberName entry) (memberName entry') = true := by
  have total : Std.Total fun entry entry' : PyValue × PyValue =>
      o.le (memberName entry) (memberName entry') = true := ⟨fun _ _ => o.total _ _⟩
  have trans : IsTrans (PyValue × PyValue) fun entry entry' =>
      o.le (memberName entry) (memberName entry') = true := ⟨fun _ _ _ => o.trans _ _ _⟩
  exact List.pairwise_insertionSort _ entries

/-- Sorting leaves the values alone. -/
theorem sortEntries_arrangeEntries (entries : List (PyValue × PyValue)) :
    o.sortEntries (o.arrangeEntries entries) =
      (o.sortEntries entries).map fun entry => (entry.1, o.arrange entry.2) := by
  let before (entry entry' : PyValue × PyValue) : Prop :=
    o.le (memberName entry) (memberName entry') = true
  rw [arrangeEntries_eq_map]
  exact (List.map_insertionSort before before (fun entry => (entry.1, o.arrange entry.2)) entries
    fun _ _ _ _ => Iff.rfl).symm

/-- The keys of an object that is arranged. -/
theorem arrangeEntries_keys (entries : List (PyValue × PyValue)) :
    (o.arrangeEntries entries).map Prod.fst = entries.map Prod.fst := by
  rw [arrangeEntries_eq_map, List.map_map]
  rfl

/-- Members with distinct names have one sorted order. -/
theorem sortEntries_eq_of_perm {entries entries' : List (PyValue × PyValue)}
    (perm : entries.Perm entries') (named : ∀ entry ∈ entries, ∃ name, entry.1 = .str name ∧
      o.Name name) (distinct : (entries.map Prod.fst).Nodup) :
    o.sortEntries entries = o.sortEntries entries' := by
  refine List.Perm.eq_of_pairwise ?_ (o.pairwise_sortEntries entries)
    (o.pairwise_sortEntries entries')
    ((sortEntries_perm entries).trans (perm.trans (sortEntries_perm entries').symm))
  intro entry entry' mem mem' first second
  have inside : entry ∈ entries := (sortEntries_perm entries).mem_iff.mp mem
  have inside' : entry' ∈ entries := perm.mem_iff.mpr ((sortEntries_perm entries').mem_iff.mp mem')
  obtain ⟨name, ofName, isName⟩ := named entry inside
  obtain ⟨name', ofName', isName'⟩ := named entry' inside'
  refine List.inj_on_of_nodup_map distinct inside inside' ?_
  have atName : memberName entry = name := by rw [memberName, ofName]
  have atName' : memberName entry' = name' := by rw [memberName, ofName']
  rw [atName, atName'] at first second
  rw [ofName, ofName', o.antisymm name name' isName isName' first second]

/-! ## The form decides equality -/

mutual

/-- Equal values have one form. -/
theorem arrange_eq_of_sameJson : (v w : PyValue) → Keyed o.Name v → SameJson v w →
    o.arrange v = o.arrange w
  | .none, _, _, same => by rw [same]
  | .bool _, _, _, same => by rw [same]
  | .int _, _, _, same => by rw [same]
  | .float _ _, _, _, same => by rw [same]
  | .bytes _, _, _, same => by rw [same]
  | .str _, _, _, same => by rw [same]
  | .list items, _, keyed, ⟨items', same, sameArray⟩ => by
      rw [same, arrange, arrange, arrangeItems_eq_of_sameArray items items' keyed sameArray]
  | .dict entries, _, keyed, ⟨entries', same, lengths, sameObject⟩ => by
      obtain ⟨named, distinct⟩ := keyedEntries_iff.mp keyed
      have within := arrangeEntries_subset entries entries' keyed sameObject
      have keys := arrangeEntries_keys (o := o) entries
      have perm : (o.arrangeEntries entries).Perm (o.arrangeEntries entries') := by
        refine (List.subperm_of_subset ?_ within).perm_of_length_le ?_
        · exact List.Nodup.of_map Prod.fst (keys ▸ distinct)
        · rw [arrangeEntries_eq_map, arrangeEntries_eq_map, List.length_map, List.length_map]
          exact Nat.le_of_eq lengths.symm
      rw [same, arrange, arrange, sortEntries_eq_of_perm perm ?_ (keys ▸ distinct)]
      intro entry mem
      rw [arrangeEntries_eq_map] at mem
      obtain ⟨old, inside, rfl⟩ := List.mem_map.mp mem
      exact (named old inside).1

theorem arrangeItems_eq_of_sameArray : (items items' : List PyValue) → KeyedItems o.Name items →
    SameArray items items' → o.arrangeItems items = o.arrangeItems items'
  | [], _, _, same => by rw [same]
  | item :: rest, _, keyed, ⟨item', rest', same, first, later⟩ => by
      rw [same, arrangeItems, arrangeItems, arrange_eq_of_sameJson item item' keyed.1 first,
        arrangeItems_eq_of_sameArray rest rest' keyed.2 later]

theorem arrangeEntries_subset : (entries entries' : List (PyValue × PyValue)) →
    KeyedEntries o.Name entries → SameObject entries entries' →
    ∀ entry ∈ o.arrangeEntries entries, entry ∈ o.arrangeEntries entries'
  | [], _, _, _ => nofun
  | (key, value) :: rest, entries', keyed, ⟨⟨value', mem', sameValue⟩, later⟩ => by
      obtain ⟨-, keyedValue, keyedRest, -⟩ := keyed
      refine List.forall_mem_cons.mpr ⟨?_, arrangeEntries_subset rest entries' keyedRest later⟩
      rw [arrange_eq_of_sameJson value value' keyedValue sameValue, arrangeEntries_eq_map]
      exact List.mem_map.mpr ⟨(key, value'), mem', rfl⟩

end

mutual

/-- Values with one form are equal. -/
theorem sameJson_of_arrange_eq : (v w : PyValue) → o.arrange v = o.arrange w → SameJson v w
  | .none, w, same => by cases w <;> cases same; rfl
  | .bool _, w, same => by cases w <;> cases same; rfl
  | .int _, w, same => by cases w <;> cases same; rfl
  | .float _ _, w, same => by cases w <;> cases same; rfl
  | .bytes _, w, same => by cases w <;> cases same; rfl
  | .str _, w, same => by cases w <;> cases same; rfl
  | .list items, w, same => by
      cases w with
      | list items' =>
          exact ⟨items', rfl, sameArray_of_arrangeItems_eq items items' (PyValue.list.inj same)⟩
      | _ => cases same
  | .dict entries, w, same => by
      cases w with
      | dict entries' =>
          have sorted := PyValue.dict.inj same
          have perm : (o.arrangeEntries entries).Perm (o.arrangeEntries entries') :=
            (sortEntries_perm (o := o) _).symm.trans (sorted.symm ▸ sortEntries_perm _)
          refine ⟨entries', rfl, ?_, sameObject_of_subset entries entries' fun entry mem =>
            perm.mem_iff.mp mem⟩
          have lengths := perm.length_eq
          rwa [arrangeEntries_eq_map, arrangeEntries_eq_map, List.length_map, List.length_map]
            at lengths
      | _ => cases same

theorem sameArray_of_arrangeItems_eq : (items items' : List PyValue) →
    o.arrangeItems items = o.arrangeItems items' → SameArray items items'
  | [], [], _ => rfl
  | [], _ :: _, same => by cases same
  | _ :: _, [], same => by cases same
  | item :: rest, item' :: rest', same => by
      obtain ⟨first, later⟩ := List.cons.inj same
      exact ⟨item', rest', rfl, sameJson_of_arrange_eq item item' first,
        sameArray_of_arrangeItems_eq rest rest' later⟩

theorem sameObject_of_subset : (entries entries' : List (PyValue × PyValue)) →
    (∀ entry ∈ o.arrangeEntries entries, entry ∈ o.arrangeEntries entries') →
    SameObject entries entries'
  | [], _, _ => trivial
  | (key, value) :: rest, entries', within => by
      obtain ⟨first, later⟩ := List.forall_mem_cons.mp within
      refine ⟨?_, sameObject_of_subset rest entries' later⟩
      rw [arrangeEntries_eq_map] at first
      obtain ⟨⟨key', value'⟩, mem, same⟩ := List.mem_map.mp first
      obtain ⟨rfl, sameValue⟩ := Prod.mk.inj same
      exact ⟨value', mem, sameJson_of_arrange_eq value value' sameValue.symm⟩

end

mutual

/-- The form of a value is equal to it. -/
theorem sameJson_arrange : (v : PyValue) → SameJson (o.arrange v) v
  | .none => rfl
  | .bool _ => rfl
  | .int _ => rfl
  | .float _ _ => rfl
  | .bytes _ => rfl
  | .str _ => rfl
  | .list items => ⟨items, rfl, sameArray_arrangeItems items⟩
  | .dict entries => by
      refine ⟨entries, rfl, ?_, sameObject_iff.mpr fun entry mem => ?_⟩
      · rw [(sortEntries_perm _).length_eq, arrangeEntries_eq_map, List.length_map]
      · exact sameObject_arrangeEntries entries entry ((sortEntries_perm _).mem_iff.mp mem)

theorem sameArray_arrangeItems : (items : List PyValue) → SameArray (o.arrangeItems items) items
  | [] => rfl
  | item :: rest => ⟨item, rest, rfl, sameJson_arrange item, sameArray_arrangeItems rest⟩

theorem sameObject_arrangeEntries : (entries : List (PyValue × PyValue)) →
    ∀ entry ∈ o.arrangeEntries entries, ∃ value', (entry.1, value') ∈ entries ∧
      SameJson entry.2 value'
  | [] => nofun
  | (key, value) :: rest => by
      refine List.forall_mem_cons.mpr ⟨⟨value, List.mem_cons_self, sameJson_arrange value⟩, ?_⟩
      intro entry mem
      obtain ⟨value', inside, same⟩ := sameObject_arrangeEntries rest entry mem
      exact ⟨value', List.mem_cons_of_mem _ inside, same⟩

end

end TextOrder

end CubeNano

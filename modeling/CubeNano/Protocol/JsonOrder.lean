import CubeNano.Protocol.Json

/-!
# Member order and length of canonical JSON

`dumps` sorts the members of an object by name: the order of texts is total, and the members
it writes are in it.  The second part bounds the length of a number it writes.

## Main statements

* `pairwise_dumpsEntries` — the members that are written are in order
* `length_decimalText_le` — the length of a number
-/

namespace CubeNano

/-! ## The order of texts -/

theorem Text.le_total : (t t' : Text) → Text.le t t' = true ∨ Text.le t' t = true
  | [], _ => .inl rfl
  | _ :: _, [] => .inr rfl
  | c :: rest, c' :: rest' => by
      unfold Text.le
      rcases lt_trichotomy c c' with lt | rfl | lt
      · exact .inl (by simp [lt])
      · exact (Text.le_total rest rest').imp (by simp) (by simp)
      · exact .inr (by simp [lt])

theorem Text.le_trans : (t t' t'' : Text) → Text.le t t' = true → Text.le t' t'' = true →
    Text.le t t'' = true
  | [], _, _, _, _ => rfl
  | _ :: _, [], _, h, _ => Bool.noConfusion h
  | _ :: _, _ :: _, [], _, h => Bool.noConfusion h
  | c :: rest, c' :: rest', c'' :: rest'', h, h' => by
      simp only [Text.le, Bool.or_eq_true, decide_eq_true_eq, Bool.and_eq_true] at h h' ⊢
      rcases h with lt | ⟨rfl, le⟩
      · rcases h' with lt' | ⟨rfl, -⟩
        · exact .inl (lt.trans lt')
        · exact .inl lt
      · rcases h' with lt' | ⟨rfl, le'⟩
        · exact .inl lt'
        · exact .inr ⟨rfl, Text.le_trans rest rest' rest'' le le'⟩

theorem Text.le_antisymm : (t t' : Text) → Text.le t t' = true → Text.le t' t = true → t = t'
  | [], [], _, _ => rfl
  | [], _ :: _, _, h => Bool.noConfusion h
  | _ :: _, [], h, _ => Bool.noConfusion h
  | c :: rest, c' :: rest', h, h' => by
      simp only [Text.le, Bool.or_eq_true, decide_eq_true_eq, Bool.and_eq_true] at h h'
      rcases h with lt | ⟨rfl, le⟩
      · rcases h' with lt' | ⟨rfl, -⟩
        · exact absurd lt (lt_asymm lt')
        · exact absurd lt (lt_irrefl _)
      · rcases h' with lt' | ⟨-, le'⟩
        · exact absurd lt' (lt_irrefl _)
        · rw [Text.le_antisymm rest rest' le le']

/-! ## Member order -/

/-- The names of plain entries are strictly in order. -/
theorem pairwise_dumpsEntries {entries : List (PyValue × PyValue)} (plain : PlainEntries entries) :
    (dumpsEntries entries).Pairwise fun m m' => Text.le m.1 m'.1 = true ∧ m.1 ≠ m'.1 := by
  induction entries with
  | nil => exact .nil
  | cons entry rest ih =>
      obtain ⟨k, value⟩ := entry
      obtain ⟨key, rfl, -, -, later, order⟩ := plain.uncons
      exact List.pairwise_cons.mpr ⟨order, ih later⟩

/-! ## Lengths -/

theorem length_decimalDigits_le {fuel n k : ℕ} (fits : n < 10 ^ k) (positive : 0 < k) :
    (decimalDigits fuel n).length ≤ k := by
  induction fuel generalizing n k with
  | zero => exact Nat.zero_le _
  | succ fuel ih =>
      unfold decimalDigits
      split
      · exact positive
      · rename_i large
        obtain ⟨k, rfl⟩ := Nat.exists_eq_succ_of_ne_zero positive.ne'
        have quotient : n / 10 < 10 ^ k := by
          rw [Nat.div_lt_iff_lt_mul (by decide)]
          simpa [pow_succ] using fits
        have wide : 0 < k := by
          rcases Nat.eq_zero_or_pos k with rfl | wide
          · simp at fits
            omega
          · exact wide
        rw [List.length_append, List.length_singleton]
        exact Nat.succ_le_succ (ih quotient wide)

theorem length_decimalText_le {n k : ℕ} (fits : n < 10 ^ k) (positive : 0 < k) :
    (decimalText n).length ≤ k := by
  rw [decimalText, List.length_map]
  exact length_decimalDigits_le fits positive

end CubeNano

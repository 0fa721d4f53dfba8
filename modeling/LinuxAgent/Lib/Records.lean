import Mathlib.Data.List.Range

/-!
# Files of fixed-size records

The complete records of a sequence, each with its position, as far as they can be
parsed. Reading a file record by record gives the same entries as reading a part that
ends with a complete record, and then the rest.
-/

namespace Records

variable {α β : Type*}

/-- The entries of the complete records of `n` elements, with their positions from `pos` on. -/
def entries (n : ℕ) (parse : List α → Option β) (pos : ℕ) (as : List α) : List (ℕ × β) :=
  (List.range (as.length / n)).filterMap fun k =>
    (parse ((as.drop (n * k)).take n)).map fun b => (pos + n * k, b)

variable {n : ℕ} {parse : List α → Option β} {pos : ℕ} {as bs : List α}

/-- No record is complete in a part that is too short. -/
theorem entries_of_lt (h : as.length < n) : entries n parse pos as = [] := by
  rw [entries, Nat.div_eq_of_lt h]
  rfl

/-- A part of complete records can be read on its own. -/
theorem entries_append (hn : 0 < n) (h : n ∣ as.length) :
    entries n parse pos (as ++ bs) =
      entries n parse pos as ++ entries n parse (pos + as.length) bs := by
  obtain ⟨count, hcount⟩ := h
  have hdiv : (as ++ bs).length / n = count + bs.length / n := by
    rw [List.length_append, hcount, Nat.mul_add_div hn]
  rw [entries, hdiv, List.range_add, List.filterMap_append, List.filterMap_map]
  congr 1
  · rw [entries, hcount, Nat.mul_div_cancel_left count hn]
    refine List.filterMap_congr fun k hk => ?_
    have hle : n * k + n ≤ as.length := by
      rw [hcount, ← Nat.mul_succ]
      exact Nat.mul_le_mul_left n (List.mem_range.mp hk)
    rw [List.drop_append_of_le_length (by omega), List.take_append_of_le_length]
    rw [List.length_drop]
    omega
  · refine List.filterMap_congr fun k _ => ?_
    rw [Function.comp_apply, Nat.mul_add, ← hcount, List.drop_append, ← Nat.add_assoc]
    have hnil : as.drop (as.length + n * k) = [] := List.drop_eq_nil_of_le (Nat.le_add_right _ _)
    rw [hnil, List.nil_append, Nat.add_sub_cancel_left]

/-- The entry of a single record. -/
theorem entries_of_length_eq (hn : 0 < n) (h : as.length = n) :
    entries n parse pos as = ((parse as).map fun b => (pos, b)).toList := by
  have htake : as.take n = as := List.take_of_length_le h.le
  rw [entries, h, Nat.div_self hn]
  cases hparse : parse as <;> simp [List.range_succ, htake, hparse]

/-- The first record and those after it. -/
theorem entries_of_le (hn : 0 < n) (h : n ≤ as.length) :
    entries n parse pos as =
      ((parse (as.take n)).map fun b => (pos, b)).toList ++
        entries n parse (pos + n) (as.drop n) := by
  have hlen : (as.take n).length = n := List.length_take_of_le h
  conv_lhs => rw [← List.take_append_drop n as]
  rw [entries_append hn ⟨1, by rw [hlen, Nat.mul_one]⟩, hlen, entries_of_length_eq hn hlen]

end Records

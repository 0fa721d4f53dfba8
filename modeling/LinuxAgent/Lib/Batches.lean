import Mathlib.Data.List.Basic

/-!
# Batches of a fixed size

Items are collected one by one, and whenever there are enough of them they are handed over as one
batch. Every item is in a batch or still waits, in the order in which the items came.
-/

namespace Batches

variable {α : Type*}

/-- The batches that were handed over, and the items that wait. -/
structure State (α : Type*) where
  posted : List (List α)
  pending : List α

/-- Nothing was collected. -/
def empty : State α := ⟨[], []⟩

/-- A further item. -/
def State.push (size : ℕ) (s : State α) (a : α) : State α :=
  if size ≤ (s.pending ++ [a]).length then ⟨s.posted ++ [s.pending ++ [a]], []⟩
  else ⟨s.posted, s.pending ++ [a]⟩

/-- All items so far, each in its place. -/
def State.items (s : State α) : List α := s.posted.flatten ++ s.pending

/-- The batches have the size, and there are less items than that which wait. -/
structure State.Sized (size : ℕ) (s : State α) : Prop where
  posted : ∀ batch ∈ s.posted, batch.length = size
  pending : s.pending.length < size

variable {size : ℕ} {s : State α}

/-- A further item comes last. -/
theorem State.items_push (size : ℕ) (s : State α) (a : α) :
    (s.push size a).items = s.items ++ [a] := by
  rw [State.push]
  split
  · simp [State.items]
  · simp [State.items]

/-- A further item keeps the sizes. -/
theorem State.Sized.push (h : s.Sized size) (a : α) : (s.push size a).Sized size := by
  have hpending := h.pending
  have hlength : (s.pending ++ [a]).length = s.pending.length + 1 := by
    rw [List.length_append, List.length_singleton]
  rw [State.push]
  split
  · refine ⟨List.forall_mem_append.mpr ⟨h.posted, List.forall_mem_singleton.mpr (by omega)⟩, ?_⟩
    rw [List.length_nil]
    omega
  · exact ⟨h.posted, by dsimp only; omega⟩

/-- No items have the right sizes. -/
theorem sized_empty (h : 0 < size) : (empty : State α).Sized size :=
  ⟨fun _ hbatch => absurd hbatch List.not_mem_nil, h⟩

/-- The number of items in full batches. -/
theorem length_flatten {batches : List (List α)} (h : ∀ batch ∈ batches, batch.length = size) :
    batches.flatten.length = size * batches.length := by
  induction batches with
  | nil => rfl
  | cons batch batches ih =>
    obtain ⟨hbatch, hbatches⟩ := List.forall_mem_cons.mp h
    rw [List.flatten_cons, List.length_append, hbatch, ih hbatches, List.length_cons, Nat.mul_succ,
      Nat.add_comm]

/-- How many items are in batches. -/
theorem State.Sized.length_flatten (h : s.Sized size) :
    s.posted.flatten.length = size * (s.items.length / size) := by
  have hflatten := Batches.length_flatten h.posted
  have hdiv : s.items.length / size = s.posted.length := by
    rw [State.items, List.length_append, hflatten,
      Nat.mul_add_div (Nat.zero_lt_of_lt h.pending), Nat.div_eq_of_lt h.pending, Nat.add_zero]
  rw [hflatten, hdiv]

/-- The items in batches are the first ones. -/
theorem State.Sized.flatten_eq (h : s.Sized size) :
    s.posted.flatten = s.items.take (size * (s.items.length / size)) := by
  rw [← h.length_flatten, State.items, List.take_left]

end Batches

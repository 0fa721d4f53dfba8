import Mathlib.Data.List.Basic
import Mathlib.Data.Nat.Notation
import Mathlib.Tactic.Common

/-!
# Scanning for the first minimum

A loop that keeps the best element so far, replaces it by a strictly better one and stops
early at a score of zero finds the first element with the least score.
-/

namespace FirstMin

variable {α : Type*} (score : α → ℕ)

/-- The loop, with the best element so far and its score. -/
def scan : Option (α × ℕ) → List α → Option (α × ℕ)
  | best, [] => best
  | best, x :: xs =>
    if best.all (fun b => score x < b.2) then
      if score x = 0 then some (x, 0) else scan (some (x, score x)) xs
    else scan best xs

/-- The element has the least score, and those before it have greater scores. -/
def IsFirstMin (l : List α) (m : α) : Prop :=
  ∃ before after, l = before ++ m :: after ∧ (∀ y ∈ before, score m < score y) ∧
    ∀ y ∈ after, score m ≤ score y

variable {score} {l : List α} {m : α}

/-- The first minimum is in the list. -/
theorem IsFirstMin.mem (h : IsFirstMin score l m) : m ∈ l := by
  obtain ⟨before, after, rfl, -, -⟩ := h
  exact List.mem_append_right _ List.mem_cons_self

/-- No score is below that of the first minimum. -/
theorem IsFirstMin.le (h : IsFirstMin score l m) {y : α} (hy : y ∈ l) : score m ≤ score y := by
  obtain ⟨before, after, rfl, hbefore, hafter⟩ := h
  rw [List.mem_append, List.mem_cons] at hy
  obtain hy | rfl | hy := hy
  · exact Nat.le_of_lt (hbefore y hy)
  · exact Nat.le_refl _
  · exact hafter y hy

/-- A first element that is as good as the minimum is the minimum. -/
theorem IsFirstMin.eq_of_le {x : α} (h : IsFirstMin score (x :: l) m) (hx : score x ≤ score m) :
    m = x := by
  obtain ⟨before, after, heq, hbefore, -⟩ := h
  cases before with
  | nil => exact (List.cons.inj heq).1.symm
  | cons y before =>
    obtain rfl := (List.cons.inj heq).1
    have hlt := hbefore x List.mem_cons_self
    omega

/-- A worse element may be put in front. -/
theorem IsFirstMin.cons {x : α} (h : IsFirstMin score l m) (hx : score m < score x) :
    IsFirstMin score (x :: l) m := by
  obtain ⟨before, after, rfl, hbefore, hafter⟩ := h
  exact ⟨x :: before, after, rfl, List.forall_mem_cons.mpr ⟨hx, hbefore⟩, hafter⟩

/-- An element that is not better than the first may be put behind it. -/
theorem IsFirstMin.insert {b x : α} (h : IsFirstMin score (b :: l) m) (hx : score b ≤ score x) :
    IsFirstMin score (b :: x :: l) m := by
  obtain ⟨before, after, heq, hbefore, hafter⟩ := h
  cases before with
  | nil =>
    obtain ⟨rfl, rfl⟩ := List.cons.inj heq
    exact ⟨[], x :: l, rfl, fun y hy => absurd hy List.not_mem_nil,
      List.forall_mem_cons.mpr ⟨hx, hafter⟩⟩
  | cons y before =>
    obtain ⟨rfl, rfl⟩ := List.cons.inj heq
    rw [List.forall_mem_cons] at hbefore
    refine ⟨b :: x :: before, after, rfl, ?_, hafter⟩
    exact List.forall_mem_cons.mpr ⟨hbefore.1, List.forall_mem_cons.mpr
      ⟨Nat.lt_of_lt_of_le hbefore.1 hx, hbefore.2⟩⟩

/-- An element with score zero behind a worse one. -/
theorem isFirstMin_of_zero {b x : α} (hx : score x = 0) (hb : score x < score b) :
    IsFirstMin score (b :: x :: l) x := by
  refine ⟨[b], l, rfl, fun y hy => ?_, fun y _ => hx ▸ Nat.zero_le _⟩
  rw [List.mem_singleton.mp hy]
  exact hb

/-- The loop finds the first minimum of the best element so far and the rest. -/
theorem exists_scan_some (b : α) (l : List α) :
    ∃ m, scan score (some (b, score b)) l = some (m, score m) ∧ IsFirstMin score (b :: l) m := by
  induction l generalizing b with
  | nil => exact ⟨b, rfl, [], [], rfl, by simp, by simp⟩
  | cons x l ih =>
    rw [scan]
    by_cases hlt : score x < score b
    · rw [if_pos (by simpa using hlt)]
      by_cases hzero : score x = 0
      · exact ⟨x, by rw [if_pos hzero, hzero], isFirstMin_of_zero hzero hlt⟩
      · obtain ⟨m, hm, hmin⟩ := ih x
        refine ⟨m, by rw [if_neg hzero, hm], hmin.cons ?_⟩
        exact Nat.lt_of_le_of_lt (hmin.le List.mem_cons_self) hlt
    · obtain ⟨m, hm, hmin⟩ := ih b
      refine ⟨m, by rw [if_neg (by simpa using hlt), hm], hmin.insert ?_⟩
      omega

/-- The loop finds the first minimum. -/
theorem exists_scan {l : List α} (hl : l ≠ []) :
    ∃ m, scan score none l = some (m, score m) ∧ IsFirstMin score l m := by
  obtain ⟨x, l, rfl⟩ := List.exists_cons_of_ne_nil hl
  rw [scan, Option.all_none, if_pos rfl]
  by_cases hzero : score x = 0
  · refine ⟨x, by rw [if_pos hzero, hzero], [], l, rfl, by simp, fun y _ => ?_⟩
    rw [hzero]
    exact Nat.zero_le _
  · rw [if_neg hzero]
    exact exists_scan_some x l

end FirstMin

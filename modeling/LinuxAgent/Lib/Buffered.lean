import LinuxAgent.Lib.Runs
import Mathlib.Data.List.Perm.Basic

/-!
# Streams of which some items are worked on at once

The items of a list are taken in turn and worked on, never more than a limit of them at once, and
each result is handed on as soon as it is there. Whichever item is done first, the results are a
permutation of the results of the list, and there is always a next step until they are all there.
-/

namespace Buffered

variable {α β : Type*}

/-- The items that wait, those that are worked on, and the results so far. -/
structure State (α β : Type*) where
  source : List α
  running : List α
  done : List β
  deriving DecidableEq

/-- What happens. -/
inductive Action
  /-- The next item is taken. -/
  | start
  /-- One of the items that are worked on is done. -/
  | finish (i : ℕ)

/-- One step, where an item comes to its result. -/
def step (limit : ℕ) (result : α → β) (s : State α β) : Action → Option (State α β)
  | .start =>
    if s.running.length < limit then
      s.source.head?.map fun a =>
        { s with source := s.source.tail, running := s.running ++ [a] }
    else none
  | .finish i =>
    s.running[i]?.map fun a =>
      { s with running := s.running.eraseIdx i, done := s.done ++ [result a] }

/-- The work on the items of a list. -/
def system (limit : ℕ) (result : α → β) (items : List α) : Runs.System (State α β) Action where
  init s := s = ⟨items, [], []⟩
  step := step limit result

/-- The steps that are left. -/
def State.left (s : State α β) : ℕ := 2 * s.source.length + s.running.length

/-- What holds of the work all along. -/
structure Inv (limit : ℕ) (result : α → β) (items : List α) (s : State α β) : Prop where
  bounded : s.running.length ≤ limit
  results : (s.done ++ (s.running ++ s.source).map result).Perm (items.map result)

section Work

variable {limit : ℕ} {result : α → β} {items : List α} {s s' : State α β} {a : Action}

/-- Every step keeps the invariant and is one of those that were left. -/
theorem Inv.step (h : Inv limit result items s) (hstep : step limit result s a = some s') :
    Inv limit result items s' ∧ s.left = s'.left + 1 := by
  unfold Buffered.step at hstep
  cases a with
  | start =>
    dsimp only at hstep
    split at hstep
    · next hroom =>
      obtain ⟨a, ha, rfl⟩ := Option.map_eq_some_iff.mp hstep
      obtain ⟨rest, hsource⟩ := List.head?_eq_some_iff.mp ha
      refine ⟨⟨?_, ?_⟩, ?_⟩
      · rw [List.length_append]
        exact hroom
      · have hresults := h.results
        rw [hsource] at hresults
        simpa [hsource] using hresults
      · simp only [State.left, hsource, List.length_cons, List.tail_cons, List.length_append,
          List.length_nil]
        omega
    · cases hstep
  | finish i =>
    obtain ⟨a, ha, rfl⟩ := Option.map_eq_some_iff.mp hstep
    obtain ⟨hi, rfl⟩ := List.getElem?_eq_some_iff.mp ha
    refine ⟨⟨?_, ?_⟩, ?_⟩
    · exact Nat.le_trans (List.length_eraseIdx_le _ _) h.bounded
    · refine List.Perm.trans ?_ h.results
      rw [List.append_assoc]
      refine List.Perm.append_left _ ?_
      rw [List.map_append, List.map_append]
      exact ((List.getElem_cons_eraseIdx_perm hi).map result).append_right _
    · have hlength := List.length_eraseIdx_of_lt hi
      simp only [State.left, hlength]
      omega

/-- The invariant after a list of steps, and the number of steps left. -/
theorem inv_of_exec {actions : List Action}
    (hexec : (system limit result items).exec ⟨items, [], []⟩ actions = some s) :
    Inv limit result items s ∧ actions.length + s.left = 2 * items.length := by
  have hrun {t : State α β} (ht : Inv limit result items t) {actions : List Action}
      (hexec : (system limit result items).exec t actions = some s) :
      Inv limit result items s ∧ actions.length + s.left = t.left := by
    induction actions generalizing t with
    | nil =>
      obtain rfl := Option.some.inj hexec
      exact ⟨ht, by simp⟩
    | cons a actions ih =>
      obtain ⟨t', hstep, hrest⟩ := Option.bind_eq_some_iff.mp hexec
      obtain ⟨ht', hleft⟩ := ht.step hstep
      obtain ⟨hs, hlength⟩ := ih ht' hrest
      refine ⟨hs, ?_⟩
      rw [List.length_cons]
      omega
  exact hrun ⟨Nat.zero_le _, by simp⟩ hexec

/-- As long as a result is missing there is a next step. -/
theorem exists_step (hlimit : 0 < limit) (h : s.left ≠ 0) :
    ∃ a s', step limit result s a = some s' := by
  obtain ⟨source, running, done⟩ := s
  cases running with
  | cons r running => exact ⟨.finish 0, _, rfl⟩
  | nil =>
    cases source with
    | nil => exact absurd rfl h
    | cons a source => exact ⟨.start, _, if_pos hlimit⟩

/-- When no step is left, the results are those of the list in some order. -/
theorem Inv.perm_of_left_eq_zero (h : Inv limit result items s) (hleft : s.left = 0) :
    s.done.Perm (items.map result) := by
  have hsource : s.source = [] := List.length_eq_zero_iff.mp (by
    unfold State.left at hleft
    omega)
  have hrunning : s.running = [] := List.length_eq_zero_iff.mp (by
    unfold State.left at hleft
    omega)
  simpa [hsource, hrunning] using h.results

end Work

end Buffered

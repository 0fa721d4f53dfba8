import Mathlib.Data.Nat.Notation
import LinuxAgent.Lib.Runs

/-!
# Pools of tasks

A pool is a shared state with any number of tasks that take turns. One move of a task
is what it does without giving another task a chance to run. Invariants of a pool are
proved by saying what holds of the shared state and of each task, and that the moves
of one task do not break what holds of another.
-/

namespace Runs

/-- A shared state and the tasks that work on it. Finished tasks stay in the list. -/
structure Pool (σ τ : Type*) where
  /-- The shared state. -/
  shared : σ
  /-- The tasks, in the order in which they were started. -/
  tasks : List τ
  deriving DecidableEq

/-- The moves of a pool. -/
inductive Move (τ ε : Type*)
  /-- Start a task. -/
  | spawn (t : τ)
  /-- Let a task go on; the environment decides what it sees. -/
  | advance (i : ℕ) (env : ε)

namespace Pool

variable {σ τ ε : Type*} {init : σ → Prop} {starts : τ → Bool} {turn : ε → σ → τ → Option (σ × τ)}

/-- Carry out a move. A task is started where `starts` allows it, and a task that
cannot go on has no move. -/
def step (starts : τ → Bool) (turn : ε → σ → τ → Option (σ × τ)) (p : Pool σ τ) :
    Move τ ε → Option (Pool σ τ)
  | .spawn t => if starts t then some { p with tasks := p.tasks ++ [t] } else none
  | .advance i env =>
    p.tasks[i]?.bind fun t => (turn env p.shared t).map fun next =>
      ⟨next.1, p.tasks.set i next.2⟩

/-- A pool without tasks. -/
def Initial (init : σ → Prop) (p : Pool σ τ) : Prop := init p.shared ∧ p.tasks = []

/-- The pool as a transition system. -/
def system (init : σ → Prop) (starts : τ → Bool) (turn : ε → σ → τ → Option (σ × τ)) :
    System (Pool σ τ) (Move τ ε) :=
  ⟨Initial init, step starts turn⟩

/-- `G` holds of the shared state, and `J` of the shared state and each task. -/
def Holds (G : σ → Prop) (J : σ → τ → Prop) (p : Pool σ τ) : Prop :=
  G p.shared ∧ ∀ t ∈ p.tasks, J p.shared t

/-- What a move of a task is. -/
theorem step_advance_eq_some {p p' : Pool σ τ} {i : ℕ} {env : ε} :
    (system init starts turn).step p (.advance i env) = some p' ↔
      ∃ t next, p.tasks[i]? = some t ∧ turn env p.shared t = some next ∧
        p' = ⟨next.1, p.tasks.set i next.2⟩ := by
  simp only [system, step, Option.bind_eq_some_iff, Option.map_eq_some_iff]
  constructor
  · rintro ⟨t, ht, next, hnext, rfl⟩
    exact ⟨t, next, ht, hnext, rfl⟩
  · rintro ⟨t, next, ht, hnext, rfl⟩
    exact ⟨t, ht, next, hnext, rfl⟩

/-- A started task keeps the invariant if it holds of the task. -/
theorem Holds.spawn {G : σ → Prop} {J : σ → τ → Prop} {p p' : Pool σ τ} {t : τ}
    (hold : Holds G J p) (hstep : (system init starts turn).step p (.spawn t) = some p')
    (hstart : starts t = true → J p.shared t) : Holds G J p' := by
  simp only [system, step] at hstep
  split at hstep
  · next ht =>
    obtain rfl := Option.some.inj hstep
    refine ⟨hold.1, fun u hu => ?_⟩
    rcases List.mem_append.mp hu with hu | hu
    · exact hold.2 u hu
    · rw [List.mem_singleton.mp hu]
      exact hstart ht
  · cases hstep

/-- A move of a task keeps the invariant if it keeps what holds of the shared state, of
the task itself and of every other task. -/
theorem Holds.advance {G : σ → Prop} {J : σ → τ → Prop} {p p' : Pool σ τ} {i : ℕ} {env : ε}
    (hold : Holds G J p) (hstep : (system init starts turn).step p (.advance i env) = some p')
    (hmove : ∀ t next, p.tasks[i]? = some t → J p.shared t → turn env p.shared t = some next →
      G next.1 ∧ J next.1 next.2 ∧ ∀ u ∈ p.tasks, J p.shared u → J next.1 u) :
    Holds G J p' := by
  obtain ⟨t, next, ht, hnext, rfl⟩ := step_advance_eq_some.mp hstep
  obtain ⟨hshared, hown, hothers⟩ := hmove t next ht (hold.2 t (List.mem_of_getElem? ht)) hnext
  refine ⟨hshared, fun u hu => ?_⟩
  rcases List.mem_or_eq_of_mem_set hu with hu | rfl
  · exact hothers u hu (hold.2 u hu)
  · exact hown

/-- A task that runs alone, in a fixed environment. -/
inductive Alone (turn : ε → σ → τ → Option (σ × τ)) (env : ε) : σ × τ → σ × τ → Prop
  | refl (x : σ × τ) : Alone turn env x x
  | head {x y z : σ × τ} : turn env x.1 x.2 = some y → Alone turn env y z →
      Alone turn env x z

/-- Running on alone. -/
theorem Alone.trans {env : ε} {x y z : σ × τ} (hxy : Alone turn env x y)
    (hyz : Alone turn env y z) : Alone turn env x z := by
  induction hxy with
  | refl _ => exact hyz
  | head hmove _ ih => exact .head hmove (ih hyz)

end Pool

end Runs

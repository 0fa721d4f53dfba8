import Mathlib.Logic.Function.Basic
import Mathlib.Logic.Relation
import Mathlib.Data.Nat.Notation

/-!
# Locks

Processes that share locks, each held by at most one of them. A lock table agrees with
the processes if the holder of a lock is the process whose point in the program holds
it. Processes that ask for their locks in one order never wait in a cycle. The order may
depend on where the processes stand.
-/

namespace Locks

variable {P L : Type*} [DecidableEq P]

/-- The process takes the lock. -/
def acquire [DecidableEq L] (locks : L → Option P) (l : L) (p : P) : L → Option P :=
  Function.update locks l (some p)

/-- The process drops every lock it holds. -/
def release (locks : L → Option P) (p : P) : L → Option P :=
  fun l => if locks l = some p then none else locks l

/-- The holder of each lock is the process that holds it at its point. -/
def Agrees (locks : L → Option P) (holds : P → L → Bool) : Prop :=
  ∀ l p, locks l = some p ↔ holds p l = true

/-- A process that moves between two points that hold the same locks. -/
theorem Agrees.keep {locks : L → Option P} {holds : P → L → Bool} {p : P} {h : L → Bool}
    (hagree : Agrees locks holds) (hsame : holds p = h) :
    Agrees locks (Function.update holds p h) := by
  rw [← hsame, Function.update_eq_self]
  exact hagree

/-- A process that takes a free lock. -/
theorem Agrees.acquire [DecidableEq L] {locks : L → Option P} {holds : P → L → Bool} {p : P}
    {l : L} (hagree : Agrees locks holds) (hfree : locks l = none) :
    Agrees (acquire locks l p)
      (Function.update holds p (Function.update (holds p) l true)) := by
  intro k q
  by_cases hk : k = l
  · subst hk
    have hnone : holds q k = false := by
      rw [← Bool.not_eq_true, ← hagree k q, hfree]
      simp
    by_cases hq : q = p
    · subst hq
      simp [Locks.acquire]
    · simp [Locks.acquire, Function.update_of_ne hq, hnone, Ne.symm hq]
  · by_cases hq : q = p
    · subst hq
      simpa [Locks.acquire, hk] using hagree k q
    · simpa [Locks.acquire, hk, hq] using hagree k q

/-- A process that drops its locks. -/
theorem Agrees.release {locks : L → Option P} {holds : P → L → Bool} {p : P}
    (hagree : Agrees locks holds) :
    Agrees (release locks p) (Function.update holds p fun _ => false) := by
  intro l q
  by_cases hq : q = p
  · subst hq
    simp [Locks.release]
  · rw [Function.update_of_ne hq, ← hagree l q, Locks.release]
    split
    · next hown => simp [hown, Ne.symm hq]
    · exact Iff.rfl

/-- A lock is free once its holder has dropped its locks. -/
theorem release_self {locks : L → Option P} {p : P} {l : L} (hown : locks l = some p) :
    release locks p l = none := by
  rw [release, if_pos hown]

/-- Who holds a lock after a process has dropped its own held it before. -/
theorem of_release {locks : L → Option P} {p q : P} {l : L} (hown : release locks p l = some q) :
    locks l = some q := by
  unfold release at hown
  split at hown
  · cases hown
  · exact hown

/-- The process `p` wants a lock that `q` holds. -/
def WaitsFor (locks : L → Option P) (wants : P → Option L) (p q : P) : Prop :=
  ∃ l, wants p = some l ∧ locks l = some q

/-- The same without a table: every process knows which locks it holds. -/
def Waits {P L : Type*} (holds : P → L → Prop) (wants : P → Option L) (p q : P) : Prop :=
  ∃ l, wants p = some l ∧ holds q l

omit [DecidableEq P] in
/-- Along a chain of waits the rank of the wanted lock does not fall. -/
theorem Waits.rank_le {holds : P → L → Prop} {wants : P → Option L} {r : L → ℕ}
    (horder : ∀ p k l, wants p = some l → holds p k → r k < r l)
    {p q : P} (hchain : Relation.TransGen (Waits holds wants) p q) {l : L}
    (hl : wants p = some l) : ∃ k, r l ≤ r k ∧ holds q k := by
  induction hchain with
  | single hwait =>
    obtain ⟨k, hk, hown⟩ := hwait
    obtain rfl : k = l := Option.some.inj (hk.symm.trans hl)
    exact ⟨k, Nat.le_refl _, hown⟩
  | tail _ hwait ih =>
    obtain ⟨k, hle, hown⟩ := ih
    obtain ⟨m, hm, hnext⟩ := hwait
    have hlt : r k < r m := horder _ k m hm hown
    exact ⟨m, by omega, hnext⟩

omit [DecidableEq P] in
/-- Processes that only want locks above those they hold do not wait in a cycle. -/
theorem Waits.acyclic {holds : P → L → Prop} {wants : P → Option L} {r : L → ℕ}
    (horder : ∀ p k l, wants p = some l → holds p k → r k < r l) (p : P) :
    ¬ Relation.TransGen (Waits holds wants) p p := by
  intro hcycle
  obtain ⟨q, ⟨l, hl, _⟩, _⟩ := Relation.TransGen.head'_iff.mp hcycle
  obtain ⟨k, hle, hown⟩ := Waits.rank_le horder hcycle hl
  have hlt : r k < r l := horder p k l hl hown
  omega

omit [DecidableEq P] in
/-- The case of a lock table. -/
theorem WaitsFor.acyclic {locks : L → Option P} {wants : P → Option L} {r : L → ℕ}
    (horder : ∀ p k l, wants p = some l → locks k = some p → r k < r l) (p : P) :
    ¬ Relation.TransGen (WaitsFor locks wants) p p := by
  have hacyclic : ¬ Relation.TransGen (Waits (fun q l => locks l = some q) wants) p p :=
    Waits.acyclic horder p
  exact hacyclic

section Tasks

variable {T : Type*} [DecidableEq L] {held : T → List L} {tasks : List T} {t t' : T} {i j : ℕ}
  {l : L}

/-- The task with this number holds the lock. -/
def HeldBy (held : T → List L) (tasks : List T) (i : ℕ) (l : L) : Prop :=
  ∃ t, tasks[i]? = some t ∧ l ∈ held t

/-- No task holds the lock. -/
def free (held : T → List L) (tasks : List T) (l : L) : Bool :=
  tasks.all fun t => decide (l ∉ held t)

/-- No lock is held by two tasks. -/
def Exclusive (held : T → List L) (tasks : List T) : Prop :=
  ∀ i j l, HeldBy held tasks i l → HeldBy held tasks j l → i = j

/-- No task holds a lock that is free. -/
theorem not_heldBy_of_free (hfree : free held tasks l = true) : ¬ HeldBy held tasks i l := by
  rintro ⟨t, ht, hl⟩
  exact of_decide_eq_true (List.all_eq_true.mp hfree t (List.mem_of_getElem? ht)) hl

/-- A task that goes on takes only locks that were free. -/
theorem Exclusive.set (hex : Exclusive held tasks) (ht : tasks[i]? = some t)
    (hnew : ∀ l ∈ held t', l ∈ held t ∨ free held tasks l = true) :
    Exclusive held (tasks.set i t') := by
  have hother {j : ℕ} {l : L} (hj : j ≠ i) (h : HeldBy held (tasks.set i t') j l) :
      HeldBy held tasks j l := by
    obtain ⟨u, hu, hl⟩ := h
    exact ⟨u, by rwa [List.getElem?_set_ne (Ne.symm hj)] at hu, hl⟩
  have hself {l : L} (h : HeldBy held (tasks.set i t') i l) :
      HeldBy held tasks i l ∨ free held tasks l = true := by
    obtain ⟨u, hu, hl⟩ := h
    rw [List.getElem?_set_self (List.getElem?_eq_some_iff.mp ht).1] at hu
    obtain rfl := Option.some.inj hu
    exact (hnew l hl).imp_left fun h => ⟨t, ht, h⟩
  intro j k l hj hk
  by_cases hji : j = i
  · subst hji
    by_cases hkj : k = j
    · exact hkj.symm
    · rcases hself hj with h | h
      · exact hex j k l h (hother hkj hk)
      · exact absurd (hother hkj hk) (not_heldBy_of_free h)
  · by_cases hki : k = i
    · subst hki
      rcases hself hk with h | h
      · exact hex j k l (hother hji hj) h
      · exact absurd (hother hji hj) (not_heldBy_of_free h)
    · exact hex j k l (hother hji hj) (hother hki hk)

omit [DecidableEq L] in
/-- New tasks hold nothing. -/
theorem Exclusive.append (hex : Exclusive held tasks) {new : List T}
    (hnew : ∀ t ∈ new, held t = []) : Exclusive held (tasks ++ new) := by
  have hold {j : ℕ} {l : L} (h : HeldBy held (tasks ++ new) j l) : HeldBy held tasks j l := by
    obtain ⟨u, hu, hl⟩ := h
    rw [List.getElem?_append] at hu
    split at hu
    · exact ⟨u, hu, hl⟩
    · rw [hnew u (List.mem_of_getElem? hu)] at hl
      cases hl
  exact fun j k l hj hk => hex j k l (hold hj) (hold hk)

end Tasks

end Locks

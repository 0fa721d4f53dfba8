import Mathlib.Data.Nat.Notation

/-!
# Watch channels

A watch channel keeps only the latest value sent on it. Each send raises a
version, and a receiver remembers the last version that it has been notified of.
Waiting for a change and reading the value are separate operations: only the
first one marks a version as seen.
-/

namespace Watch

/-- The sending half: the latest value and the number of values sent so far. -/
structure Channel (α : Type*) where
  /-- The value last sent, or the initial one. -/
  value : α
  /-- The number of sends. -/
  version : ℕ
  deriving DecidableEq

/-- The receiving half: the version of the last change that it was notified of. -/
structure Receiver where
  /-- The last version marked as seen. -/
  seen : ℕ
  deriving DecidableEq

variable {α : Type*}

/-- A fresh channel; its initial value counts as seen by the receiver. -/
def channel (initial : α) : Channel α × Receiver := (⟨initial, 0⟩, ⟨0⟩)

/-- Sending replaces the value and raises the version. -/
def Channel.send (w : Channel α) (value : α) : Channel α := ⟨value, w.version + 1⟩

/-- Waiting for a change completes exactly when there is an unseen version,
which it marks as seen; `none` means that the receiver is blocked. -/
def Channel.changed (w : Channel α) (rx : Receiver) : Option Receiver :=
  if w.version = rx.seen then none else some ⟨w.version⟩

/-- Reading the latest value marks nothing as seen. -/
def Channel.borrow (w : Channel α) : α := w.value

/-- A completed wait found an unseen version and has marked it as seen. -/
theorem Channel.changed_eq_some {w : Channel α} {rx rx' : Receiver} :
    w.changed rx = some rx' ↔ w.version ≠ rx.seen ∧ rx' = ⟨w.version⟩ := by
  unfold Channel.changed
  split
  · simp_all
  · simp_all [eq_comm]

end Watch

import Mathlib.Data.Nat.Notation
import Mathlib.Tactic.Common

/-!
# Bounded first-in first-out channels

A channel keeps at most `capacity` values in the order in which they were sent.
A send on a full channel and a receive on an empty one are blocked.
-/

namespace Mpsc

/-- The values in a channel, oldest first. -/
structure Channel (α : Type*) (capacity : ℕ) where
  /-- The values sent and not yet received. -/
  queue : List α
  /-- A channel never holds more than its capacity. -/
  bounded : queue.length ≤ capacity
  deriving DecidableEq

variable {α : Type*} {capacity : ℕ}

/-- A fresh channel. -/
def channel : Channel α capacity := ⟨[], Nat.zero_le _⟩

/-- Sending appends the value; `none` means that the sender is blocked. -/
def Channel.send (c : Channel α capacity) (a : α) : Option (Channel α capacity) :=
  if h : c.queue.length < capacity then
    some ⟨c.queue ++ [a], by rw [List.length_append]; exact h⟩
  else none

/-- Receiving takes the oldest value; `none` means that the receiver is blocked. -/
def Channel.recv (c : Channel α capacity) : Option (α × Channel α capacity) :=
  match c with
  | ⟨[], _⟩ => none
  | ⟨a :: rest, h⟩ => some (a, ⟨rest, Nat.le_of_succ_le h⟩)

/-- A completed send found room and has put its value last. -/
theorem Channel.send_eq_some {c c' : Channel α capacity} {a : α} (h : c.send a = some c') :
    c.queue.length < capacity ∧ c'.queue = c.queue ++ [a] := by
  unfold Channel.send at h
  split at h
  case isTrue hroom =>
    obtain rfl := Option.some.inj h
    exact ⟨hroom, rfl⟩
  case isFalse => cases h

/-- A completed receive has taken the oldest value and nothing else. -/
theorem Channel.recv_eq_some {c c' : Channel α capacity} {a : α} (h : c.recv = some (a, c')) :
    c.queue = a :: c'.queue := by
  obtain ⟨queue, hbounded⟩ := c
  cases queue with
  | nil => cases h
  | cons b rest =>
    simp only [Channel.recv, Option.some.injEq, Prod.mk.injEq] at h
    obtain ⟨rfl, rfl⟩ := h
    rfl

/-- A sender is blocked only on a full channel. -/
theorem Channel.send_isSome {c : Channel α capacity} {a : α} :
    (c.send a).isSome ↔ c.queue.length < capacity := by
  unfold Channel.send
  split <;> simp_all

/-- A receiver is blocked only on an empty channel. -/
theorem Channel.recv_isSome {c : Channel α capacity} : c.recv.isSome ↔ c.queue ≠ [] := by
  obtain ⟨queue, hbounded⟩ := c
  cases queue <;> simp [Channel.recv]

end Mpsc

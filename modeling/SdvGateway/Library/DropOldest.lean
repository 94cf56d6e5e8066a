import Mathlib.Data.List.Basic
import Mathlib.Data.Int.Order.Basic

/-! A queue of bounded length that makes room by dropping its oldest entry.
Entries carry the ticket they were issued, so that one can be withdrawn from
anywhere in the queue. -/
namespace SdvGateway.Library

/-- Entries oldest first; a queue of capacity 0 still takes the newest entry. -/
structure DropOldest (α : Type) (capacity : Nat) where
  entries : List (Int × α)
  issued : Nat
  length_le : entries.length ≤ max capacity 1
  length_le_issued : entries.length ≤ issued

namespace DropOldest

def empty : DropOldest α capacity := ⟨[], 0, Nat.zero_le _, Nat.le_refl 0⟩

def push (queue : DropOldest α capacity) (a : α) : DropOldest α capacity where
  entries :=
    (if capacity ≤ queue.entries.length then queue.entries.tail else queue.entries) ++
      [((queue.issued : Int) + 1, a)]
  issued := queue.issued + 1
  length_le := by
    have hlength := queue.length_le
    split
    · rw [List.length_append, List.length_tail, List.length_singleton]
      omega
    · rw [List.length_append, List.length_singleton]
      omega
  length_le_issued := by
    have hlength := queue.length_le_issued
    split
    · rw [List.length_append, List.length_tail, List.length_singleton]
      omega
    · rw [List.length_append, List.length_singleton]
      omega

def withdraw (queue : DropOldest α capacity) (ticket : Int) : DropOldest α capacity where
  entries := queue.entries.filter fun entry => entry.1 ≠ ticket
  issued := queue.issued
  length_le := Nat.le_trans (List.length_filter_le _ _) queue.length_le
  length_le_issued := Nat.le_trans (List.length_filter_le _ _) queue.length_le_issued

end DropOldest

end SdvGateway.Library

import Mathlib.Data.List.Infix

/-! A first-in first-out queue between threads that remembers its history. Its
operations are atomic. -/
namespace SdvGateway.Library

structure Channel (α : Type) where
  pushed : List α
  popped : List α
  queue : List α
  conserved : pushed = popped ++ queue

namespace Channel

def empty : Channel α := ⟨[], [], [], rfl⟩

def push (channel : Channel α) (item : α) : Channel α where
  pushed := channel.pushed ++ [item]
  popped := channel.popped
  queue := channel.queue ++ [item]
  conserved := by rw [channel.conserved, List.append_assoc]

def pop? (channel : Channel α) : Option (α × Channel α) :=
  match h : channel.queue with
  | [] => none
  | item :: rest => some (item,
    { pushed := channel.pushed
      popped := channel.popped ++ [item]
      queue := rest
      conserved := by rw [channel.conserved, h, List.append_assoc]; rfl })

@[simp] theorem pushed_push (channel : Channel α) (item : α) :
    (channel.push item).pushed = channel.pushed ++ [item] := rfl

theorem pop?_eq_some {channel after : Channel α} {item : α}
    (h : channel.pop? = some (item, after)) :
    after.pushed = channel.pushed ∧ after.popped = channel.popped ++ [item] := by
  unfold pop? at h
  split at h
  · cases h
  · cases h
    exact ⟨rfl, rfl⟩

theorem popped_prefix (channel : Channel α) : channel.popped <+: channel.pushed :=
  ⟨channel.queue, channel.conserved.symm⟩

end Channel

end SdvGateway.Library

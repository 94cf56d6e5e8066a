import Mathlib.Data.List.Forall2
import Mathlib.Data.List.TakeWhile

/-! Regular expressions without alternation: a sequence of quantified classes.
Quantifiers are greedy and give back one symbol at a time. -/
namespace SdvGateway.Library

/-- A class repeated `least` up to `most` times. -/
structure Piece (α : Type) where
  accepts : α → Bool
  least : Nat
  most : Option Nat
  captured : Bool := false

namespace Piece

def one (accepts : α → Bool) : Piece α := ⟨accepts, 1, some 1, false⟩

def star (accepts : α → Bool) : Piece α := ⟨accepts, 0, none, false⟩

def plus (accepts : α → Bool) : Piece α := ⟨accepts, 1, none, false⟩

def group (piece : Piece α) : Piece α := { piece with captured := true }

def longest (piece : Piece α) (s : List α) : Nat :=
  let run := (s.takeWhile piece.accepts).length
  match piece.most with
  | none => run
  | some most => min run most

def lengths (piece : Piece α) (s : List α) : List Nat :=
  ((List.range (piece.longest s + 1)).filter (piece.least ≤ ·)).reverse

structure Takes (piece : Piece α) (part : List α) : Prop where
  accepts : ∀ x ∈ part, piece.accepts x = true
  least : piece.least ≤ part.length
  most : ∀ most ∈ piece.most, part.length ≤ most

end Piece

/-- The captured groups of the first match that starts where the text starts. -/
def matchAt : List (Piece α) → List α → Option (List (List α))
  | [], _ => some []
  | piece :: rest, s =>
    (piece.lengths s).findSome? fun n =>
      (matchAt rest (s.drop n)).map fun groups =>
        if piece.captured then s.take n :: groups else groups

theorem Piece.longest_le (piece : Piece α) (s : List α) :
    piece.longest s ≤ (s.takeWhile piece.accepts).length := by
  unfold longest
  cases piece.most with
  | none => exact Nat.le_refl _
  | some most => exact Nat.min_le_left _ _

theorem Piece.longest_le_most {piece : Piece α} {most : Nat} (h : most ∈ piece.most)
    (s : List α) : piece.longest s ≤ most := by
  unfold longest
  rw [Option.mem_def.mp h]
  exact Nat.min_le_right _ _

theorem Piece.takes_of_mem_lengths {piece : Piece α} {s : List α} {n : Nat}
    (h : n ∈ piece.lengths s) : piece.Takes (s.take n) := by
  simp only [lengths, List.mem_reverse, List.mem_filter, List.mem_range, decide_eq_true_eq] at h
  have hlongest : n ≤ piece.longest s := Nat.le_of_lt_succ h.1
  have hrun : n ≤ (s.takeWhile piece.accepts).length :=
    Nat.le_trans hlongest (piece.longest_le s)
  have htake : s.take n = (s.takeWhile piece.accepts).take n := by
    rw [← List.take_append_of_le_length hrun, List.takeWhile_append_dropWhile]
  have hlength : (s.take n).length = n := by
    rw [htake, List.length_take_of_le hrun]
  constructor
  · intro x hx
    rw [htake] at hx
    exact List.mem_takeWhile_imp (List.mem_of_mem_take hx)
  · rw [hlength]
    exact h.2
  · intro most hmost
    rw [hlength]
    exact Nat.le_trans hlongest (Piece.longest_le_most hmost s)

theorem takes_of_matchAt {pieces : List (Piece α)} {s : List α} {groups : List (List α)}
    (h : matchAt pieces s = some groups) :
    List.Forall₂ Piece.Takes (pieces.filter (·.captured)) groups := by
  induction pieces generalizing s groups with
  | nil =>
    cases h
    exact .nil
  | cons piece rest ih =>
    obtain ⟨n, hn, hmatch⟩ := List.exists_of_findSome?_eq_some h
    simp only [Option.map_eq_some_iff] at hmatch
    obtain ⟨groups', hrest, rfl⟩ := hmatch
    have htail := ih hrest
    cases hcaptured : piece.captured with
    | false => simpa [hcaptured] using htail
    | true => simpa [hcaptured] using ⟨Piece.takes_of_mem_lengths hn, htail⟩

end SdvGateway.Library

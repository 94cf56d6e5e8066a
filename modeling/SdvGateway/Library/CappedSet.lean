import Mathlib.Algebra.Order.Ring.Int
import Mathlib.Data.Finset.Card
import Mathlib.Data.Finset.Union
import Mathlib.Data.List.Basic

/-! A set of remembered keys that never outgrows its capacity: a new key that
finds the set full empties it first. -/
namespace SdvGateway.Library

structure CappedSet (α : Type) (capacity : Nat) where
  keys : Finset α
  card_le : keys.card ≤ capacity

namespace CappedSet

variable {α : Type} [DecidableEq α] {capacity : Nat} [NeZero capacity]

def empty : CappedSet α capacity := ⟨∅, Nat.zero_le _⟩

/-- Whether the key is remembered already, and the set that remembers it. -/
def remember (set : CappedSet α capacity) (key : α) : Bool × CappedSet α capacity :=
  if key ∈ set.keys then (true, set)
  else if hfull : capacity ≤ set.keys.card then
    (false, ⟨{key}, (Finset.card_singleton key).trans_le (Nat.pos_of_neZero capacity)⟩)
  else
    (false, ⟨insert key set.keys, (Finset.card_insert_le _ _).trans (Nat.lt_of_not_le hfull)⟩)

def rememberAll (set : CappedSet α capacity) (keys : List α) : CappedSet α capacity :=
  keys.foldl (fun set key => (set.remember key).2) set

theorem remember_of_mem {set : CappedSet α capacity} {key : α} (h : key ∈ set.keys) :
    set.remember key = (true, set) := by
  rw [remember, if_pos h]

theorem remember_of_notMem {set : CappedSet α capacity} {key : α} (h : key ∉ set.keys) :
    (set.remember key).1 = false := by
  rw [remember, if_neg h]
  split <;> rfl

theorem mem_remember (set : CappedSet α capacity) (key : α) :
    key ∈ (set.remember key).2.keys := by
  by_cases h : key ∈ set.keys
  · rwa [remember_of_mem h]
  · rw [remember, if_neg h]
    split <;> simp

theorem remember_keys_of_full {set : CappedSet α capacity} {key : α} (h : key ∉ set.keys)
    (hfull : capacity ≤ set.keys.card) : (set.remember key).2.keys = {key} := by
  rw [remember, if_neg h, dif_pos hfull]

theorem remember_keys {set : CappedSet α capacity} {key : α}
    (hroom : (insert key set.keys).card ≤ capacity) :
    (set.remember key).2.keys = insert key set.keys := by
  by_cases h : key ∈ set.keys
  · rw [remember_of_mem h, Finset.insert_eq_self.mpr h]
  · rw [Finset.card_insert_of_notMem h] at hroom
    rw [remember, if_neg h, dif_neg (by omega)]

theorem rememberAll_append (set : CappedSet α capacity) (first second : List α) :
    set.rememberAll (first ++ second) = (set.rememberAll first).rememberAll second :=
  List.foldl_append

theorem remember_subset (set : CappedSet α capacity) (key : α) :
    (set.remember key).2.keys ⊆ insert key set.keys := by
  unfold remember
  split
  · exact Finset.subset_insert _ _
  · split
    · exact Finset.singleton_subset_iff.mpr (Finset.mem_insert_self _ _)
    · exact Finset.Subset.refl _

theorem mem_of_mem_rememberAll {set : CappedSet α capacity} {keys : List α} {key : α}
    (h : key ∈ (set.rememberAll keys).keys) : key ∈ set.keys ∨ key ∈ keys := by
  induction keys generalizing set with
  | nil => exact .inl h
  | cons first rest ih =>
    cases ih h with
    | inl hmem =>
      cases Finset.mem_insert.mp (remember_subset set first hmem) with
      | inl heq => exact .inr (heq ▸ List.mem_cons_self)
      | inr hold => exact .inl hold
    | inr hmem => exact .inr (List.mem_cons_of_mem _ hmem)

theorem rememberAll_keys {set : CappedSet α capacity} {keys : List α}
    (hroom : (set.keys ∪ keys.toFinset).card ≤ capacity) :
    (set.rememberAll keys).keys = set.keys ∪ keys.toFinset := by
  induction keys generalizing set with
  | nil => simp [rememberAll]
  | cons key rest ih =>
    have hunion : set.keys ∪ (key :: rest).toFinset = insert key set.keys ∪ rest.toFinset := by
      ext other
      simp only [List.toFinset_cons, Finset.mem_union, Finset.mem_insert]
      tauto
    rw [hunion] at hroom ⊢
    have hfirst : (set.remember key).2.keys = insert key set.keys :=
      remember_keys ((Finset.card_le_card Finset.subset_union_left).trans hroom)
    have hrest : (rememberAll (set.remember key).2 rest).keys =
        (set.remember key).2.keys ∪ rest.toFinset := by
      apply ih
      rw [hfirst]
      exact hroom
    rw [← hfirst]
    exact hrest

def misses (set : CappedSet α capacity) : List α → List α
  | [] => []
  | key :: rest =>
    if key ∈ set.keys then misses set rest else key :: misses (set.remember key).2 rest

variable [BEq α]

/-- After `laps` times of being emptied: each time it was full, and what has been
missed since is what it holds. -/
structure Laps (set : CappedSet α capacity) (missed : List α) (laps : Nat) : Prop where
  length : missed.length = laps * capacity + set.keys.card
  started : missed ≠ [] → 0 < set.keys.card
  count : ∀ key, missed.count key ≤ laps + if key ∈ set.keys then 1 else 0

omit [NeZero capacity] in
theorem laps_empty : Laps (empty : CappedSet α capacity) [] 0 := by
  constructor
  · simp [empty]
  · exact fun h => absurd rfl h
  · simp

theorem count_le_of_laps {set : CappedSet α capacity} {missed : List α} {laps : Nat}
    (h : Laps set missed laps) (key : α) :
    missed.count key ≤ 1 + (missed.length - 1) / capacity := by
  by_cases hnone : missed = []
  · simp [hnone]
  · have hstarted := h.started hnone
    have hcard := set.card_le
    have hpred : missed.length - 1 = set.keys.card - 1 + laps * capacity := by
      rw [h.length]
      omega
    have hlaps : (missed.length - 1) / capacity = laps := by
      rw [hpred, Nat.add_mul_div_right _ _ (Nat.pos_of_neZero capacity),
        Nat.div_eq_of_lt (by omega), Nat.zero_add]
    have hcount := h.count key
    rw [hlaps]
    split at hcount <;> omega

variable [LawfulBEq α]

theorem laps_remember {set : CappedSet α capacity} {missed : List α} {laps : Nat}
    (h : Laps set missed laps) {key : α} (hnew : key ∉ set.keys) :
    ∃ laps, Laps (set.remember key).2 (missed ++ [key]) laps := by
  have hcount (other : α) : (missed ++ [key]).count other =
      missed.count other + if other = key then 1 else 0 := by
    rw [List.count_append, List.count_singleton]
    by_cases hother : other = key
    · simp [hother]
    · simp [hother, Ne.symm hother]
  by_cases hfull : capacity ≤ set.keys.card
  · have hkeys := remember_keys_of_full hnew hfull
    have hcard : set.keys.card = capacity := Nat.le_antisymm set.card_le hfull
    refine ⟨laps + 1, ?_, ?_, ?_⟩
    · rw [hkeys, List.length_append, h.length, hcard, Finset.card_singleton,
        List.length_singleton, Nat.succ_mul]
    · intro _
      rw [hkeys, Finset.card_singleton]
      exact Nat.zero_lt_one
    · intro other
      have hold := h.count other
      rw [hcount, hkeys]
      by_cases hother : other = key
      · rw [hother, if_neg hnew] at hold
        simp only [hother, Finset.mem_singleton, if_true]
        omega
      · simp only [hother, Finset.mem_singleton, if_false]
        split at hold <;> omega
  · have hkeys : (set.remember key).2.keys = insert key set.keys := by
      apply remember_keys
      rw [Finset.card_insert_of_notMem hnew]
      omega
    refine ⟨laps, ?_, ?_, ?_⟩
    · rw [hkeys, List.length_append, h.length, Finset.card_insert_of_notMem hnew,
        List.length_singleton, Nat.add_assoc]
    · intro _
      rw [hkeys, Finset.card_insert_of_notMem hnew]
      exact Nat.succ_pos _
    · intro other
      have hold := h.count other
      rw [hcount, hkeys]
      by_cases hother : other = key
      · rw [hother, if_neg hnew] at hold
        simp only [hother, Finset.mem_insert_self, if_true]
        omega
      · simpa [hother] using hold

theorem laps_misses {set : CappedSet α capacity} {missed : List α} {laps : Nat}
    (h : Laps set missed laps) (keys : List α) :
    ∃ laps, Laps (set.rememberAll keys) (missed ++ set.misses keys) laps := by
  induction keys generalizing set missed laps with
  | nil => exact ⟨laps, by simpa [misses, rememberAll] using h⟩
  | cons key rest ih =>
    unfold misses
    by_cases hmem : key ∈ set.keys
    · have hsame : set.rememberAll (key :: rest) = set.rememberAll rest := by
        rw [rememberAll, List.foldl_cons, remember_of_mem hmem]
        rfl
      rw [if_pos hmem, hsame]
      exact ih h
    · obtain ⟨next, hnext⟩ := laps_remember h hmem
      rw [if_neg hmem, List.append_cons missed key]
      exact ih hnext

/-- A key is missed again only after the set has been filled and emptied. -/
theorem count_misses_le (keys : List α) (key : α) :
    ((empty : CappedSet α capacity).misses keys).count key ≤
      1 + (((empty : CappedSet α capacity).misses keys).length - 1) / capacity := by
  have hempty : Laps (empty : CappedSet α capacity) [] 0 := laps_empty
  obtain ⟨laps, hlaps⟩ := laps_misses hempty keys
  exact count_le_of_laps hlaps key

end CappedSet

end SdvGateway.Library

import Mathlib.Algebra.Order.Ring.Int
import Mathlib.Data.Finset.Card
import Mathlib.Data.List.AList

/-! A stream that is cut into batches while it is read, and the table of the last
values of a batch. -/
namespace SdvGateway.Library.Batching

section Cut
variable (cuts : ρ → Bool) (item : ρ → Option α)

/-- The batches that the steps close, and the items that wait after the last step.
A step that cuts still adds its own item to the batch. -/
def split : List α → List ρ → List (List α) × List α
  | waiting, [] => ([], waiting)
  | waiting, r :: rest =>
    if cuts r then
      ((waiting ++ (item r).toList) :: (split [] rest).1, (split [] rest).2)
    else split (waiting ++ (item r).toList) rest

def waitingAfter (steps : List ρ) : List α := (split cuts item [] steps).2

variable {cuts item}

theorem split_cut {r : ρ} (h : cuts r = true) (waiting : List α) (rest : List ρ) :
    split cuts item waiting (r :: rest) =
      ((waiting ++ (item r).toList) :: (split cuts item [] rest).1,
        (split cuts item [] rest).2) := by
  rw [split, if_pos h]

theorem split_keep {r : ρ} (h : cuts r = false) (waiting : List α) (rest : List ρ) :
    split cuts item waiting (r :: rest) = split cuts item (waiting ++ (item r).toList) rest := by
  rw [split, if_neg (by simp [h])]

theorem split_waiting_cons (waiting : List α) (r : ρ) (rest : List ρ) :
    (split cuts item waiting (r :: rest)).2 =
      (split cuts item (if cuts r then [] else waiting ++ (item r).toList) rest).2 := by
  cases hcut : cuts r with
  | true => rw [split_cut hcut, if_pos rfl]
  | false => rw [split_keep hcut, if_neg (by simp)]

theorem split_flatten (waiting : List α) (steps : List ρ) :
    (split cuts item waiting steps).1.flatten ++ (split cuts item waiting steps).2 =
      waiting ++ steps.filterMap item := by
  induction steps generalizing waiting with
  | nil => simp [split]
  | cons r rest ih =>
    have hitem : (r :: rest).filterMap item = (item r).toList ++ rest.filterMap item := by
      cases h : item r <;> simp [h]
    cases hcut : cuts r with
    | true =>
      rw [split_cut hcut, List.flatten_cons, List.append_assoc, ih, hitem]
      simp [List.append_assoc]
    | false => rw [split_keep hcut, ih, hitem, List.append_assoc]

theorem split_append (waiting : List α) (first second : List ρ) :
    split cuts item waiting (first ++ second) =
      ((split cuts item waiting first).1 ++
          (split cuts item (split cuts item waiting first).2 second).1,
        (split cuts item (split cuts item waiting first).2 second).2) := by
  induction first generalizing waiting with
  | nil => rfl
  | cons r rest ih =>
    rw [List.cons_append]
    cases hcut : cuts r with
    | true => rw [split_cut hcut, split_cut hcut, ih, List.cons_append]
    | false => rw [split_keep hcut, split_keep hcut, ih]

theorem waitingAfter_snoc (steps : List ρ) (r : ρ) :
    waitingAfter cuts item (steps ++ [r]) =
      if cuts r then [] else waitingAfter cuts item steps ++ (item r).toList := by
  unfold waitingAfter
  rw [split_append]
  simp only [split]
  split <;> rfl

theorem forall₂_split {built : ρ → Option β} (hbuilt : ∀ r, cuts r = (built r).isSome)
    {R : List α → β → Prop} (steps : List ρ)
    (h : ∀ earlier r later b, steps = earlier ++ r :: later → built r = some b →
      R (waitingAfter cuts item earlier ++ (item r).toList) b) :
    List.Forall₂ R (split cuts item [] steps).1 (steps.filterMap built) := by
  induction steps using List.reverseRecOn with
  | nil => exact .nil
  | append_singleton earlier r ih =>
    have hearlier : List.Forall₂ R (split cuts item [] earlier).1 (earlier.filterMap built) := by
      apply ih
      intro earlier' r' later b hsplit
      apply h earlier' r' (later ++ [r]) b
      rw [hsplit, List.append_assoc, List.cons_append]
    rw [split_append, List.filterMap_append]
    apply List.rel_append hearlier
    cases hr : built r with
    | none =>
      rw [split_keep (by rw [hbuilt, hr]; rfl), List.filterMap_cons_none hr]
      exact .nil
    | some b =>
      rw [split_cut (by rw [hbuilt, hr]; rfl), List.filterMap_cons_some hr]
      exact .cons (h earlier r [] b rfl hr) .nil

end Cut

section Latest
variable [DecidableEq κ] (key : α → κ)

def latest (k : κ) (l : List α) : Option α := (l.filter (key · = k)).getLast?

variable {key}

theorem latest_append (k : κ) (l l' : List α) :
    latest key k (l ++ l') = (latest key k l').or (latest key k l) := by
  unfold latest
  rw [List.filter_append, List.getLast?_append]

theorem latest_singleton (k : κ) (a : α) :
    latest key k [a] = if key a = k then some a else none := by
  unfold latest
  split <;> simp_all

theorem latest_cons (k : κ) (a : α) (l : List α) :
    latest key k (a :: l) = (latest key k l).or (if key a = k then some a else none) := by
  rw [← List.singleton_append, latest_append, latest_singleton]

theorem latest_eq_none {k : κ} {l : List α} : latest key k l = none ↔ ∀ a ∈ l, key a ≠ k := by
  simp [latest]

theorem latest_isSome {k : κ} {l : List α} :
    (latest key k l).isSome = true ↔ ∃ a ∈ l, key a = k := by
  rw [← Option.ne_none_iff_isSome, ne_eq, latest_eq_none]
  push Not
  rfl

theorem key_latest {k : κ} {l : List α} {a : α} (h : latest key k l = some a) :
    a ∈ l ∧ key a = k := by
  have hmem := List.mem_of_getLast? h
  simpa using hmem

theorem latest_middle {before after : List α} {a : α} (h : ∀ b ∈ after, key b ≠ key a) :
    latest key (key a) (before ++ a :: after) = some a := by
  rw [← List.singleton_append, latest_append, latest_append, latest_eq_none.mpr h,
    latest_singleton, if_pos rfl]
  rfl

theorem latest_map {f : β → α} (k : κ) (l : List β) :
    latest key k (l.map f) = (latest (fun b => key (f b)) k l).map f := by
  unfold latest
  rw [List.filter_map, List.getLast?_map]
  rfl

theorem latest_perm {l l' : List α} (hperm : l.Perm l') (hnodup : (l.map key).Nodup) (k : κ) :
    latest key k l = latest key k l' := by
  have hother : latest key k l = none → latest key k l' = none := by
    intro hnone
    rw [latest_eq_none] at hnone ⊢
    exact fun a ha => hnone a (hperm.mem_iff.mpr ha)
  cases hl : latest key k l with
  | none => exact (hother hl).symm
  | some a =>
    cases hl' : latest key k l' with
    | none =>
      have hmem := key_latest hl
      exact absurd hmem.2 (latest_eq_none.mp hl' a (hperm.mem_iff.mp hmem.1))
    | some b =>
      have ha := key_latest hl
      have hb := key_latest hl'
      have hsame : key a = key b := ha.2.trans hb.2.symm
      rw [List.inj_on_of_nodup_map hnodup ha.1 (hperm.mem_iff.mpr hb.1) hsame]

end Latest

end SdvGateway.Library.Batching

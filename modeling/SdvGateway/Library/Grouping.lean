import Mathlib.Algebra.Order.Ring.Int
import Mathlib.Data.List.AList

/-! Lists compared key by key, and the part of a table that belongs to one key. -/
namespace SdvGateway.Library.Grouping
variable [DecidableEq κ]

def group (key : α → κ) (k : κ) (l : List α) : List α := l.filter (key · = k)

theorem perm_iff_perm_group [DecidableEq α] (key : α → κ) {l l' : List α} :
    l.Perm l' ↔ ∀ k, (group key k l).Perm (group key k l') := by
  constructor
  · intro h k
    exact h.filter _
  · intro h
    apply List.perm_iff_count.mpr
    intro a
    have hcount := (h (key a)).count_eq a
    unfold group at hcount
    rw [List.count_filter (by simp), List.count_filter (by simp)] at hcount
    exact hcount

theorem group_filterMap {key : α → κ} {key' : β → κ} {f : α → Option β}
    (hkey : ∀ a b, f a = some b → key' b = key a) (k : κ) (l : List α) :
    group key' k (l.filterMap f) = (group key k l).filterMap f := by
  unfold group
  induction l with
  | nil => rfl
  | cons a rest ih =>
    cases hf : f a with
    | none =>
      rw [List.filterMap_cons_none hf, ih]
      by_cases hk : key a = k <;> simp [hk, hf]
    | some b =>
      have hb := hkey a b hf
      rw [List.filterMap_cons_some hf]
      by_cases hk : key a = k <;> simp [hb, hk, hf, ih]

theorem group_entries (table : AList fun _ : κ => α) (k : κ) :
    group Sigma.fst k table.entries = (table.lookup k).toList.map (Sigma.mk k) := by
  obtain ⟨entries, hnodup⟩ := table
  change entries.filter _ = (entries.dlookup k).toList.map _
  induction entries with
  | nil => rfl
  | cons entry rest ih =>
    have hrest := ih (List.nodupKeys_cons.mp hnodup).2
    obtain ⟨key, value⟩ := entry
    by_cases hk : key = k
    · subst hk
      have hnone : rest.dlookup key = none :=
        List.dlookup_eq_none.mpr (List.nodupKeys_cons.mp hnodup).1
      rw [hnone] at hrest
      simp [hrest]
    · have hk' : k ≠ key := fun h => hk h.symm
      simp [hk, List.dlookup_cons_ne rest ⟨key, value⟩ hk', hrest]

end SdvGateway.Library.Grouping

import Mathlib.Data.List.Nodup
import Mathlib.Order.Basic
import Mathlib.Data.Int.Order.Basic

/-! A table with automatically assigned keys. Keys are never used twice: a new
row gets a key above every key that the table has ever held, until the keys run
out. -/
namespace SdvGateway.Library

/-- Rows in ascending order of their keys, and the largest key ever assigned. -/
structure AutoTable (α : Type) where
  rows : List (Int × α)
  sequence : Int
  ascending : rows.Pairwise (fun earlier later => earlier.1 < later.1)
  bounded : ∀ row ∈ rows, row.1 ≤ sequence

namespace AutoTable

def empty : AutoTable α := ⟨[], 0, .nil, by simp⟩

def insert (table : AutoTable α) (maxKey : Int) (a : α) : Option (AutoTable α) :=
  if table.sequence < maxKey then
    some {
      rows := table.rows ++ [(table.sequence + 1, a)]
      sequence := table.sequence + 1
      ascending := by
        refine List.pairwise_append.mpr ⟨table.ascending, List.pairwise_singleton _ _, ?_⟩
        intro row hrow new hnew
        have hbound := table.bounded row hrow
        rw [List.mem_singleton.mp hnew]
        omega
      bounded := by
        intro row hrow
        rcases List.mem_append.mp hrow with hrow | hrow
        · have hbound := table.bounded row hrow
          omega
        · rw [List.mem_singleton.mp hrow] }
  else none

def deleteFirst (table : AutoTable α) (p : α → Bool) : AutoTable α where
  rows := table.rows.eraseP fun row => p row.2
  sequence := table.sequence
  ascending := table.ascending.sublist List.eraseP_sublist
  bounded := fun row hrow => table.bounded row (List.mem_of_mem_eraseP hrow)

def update (table : AutoTable α) (key : Int) (f : α → α) : AutoTable α where
  rows := table.rows.map fun row => if row.1 = key then (row.1, f row.2) else row
  sequence := table.sequence
  ascending := by
    apply List.pairwise_map.mpr
    apply table.ascending.imp
    intro earlier later h
    split <;> split <;> exact h
  bounded := by
    intro row hrow
    obtain ⟨old, hold, rfl⟩ := List.mem_map.mp hrow
    have hbound := table.bounded old hold
    split <;> exact hbound

def select (table : AutoTable α) (p : α → Bool) : List (Int × α) :=
  table.rows.filter fun row => p row.2

theorem select_insert {table inserted : AutoTable α} {maxKey : Int} {a : α}
    (h : table.insert maxKey a = some inserted) (p : α → Bool) :
    inserted.select p =
      table.select p ++ if p a then [(table.sequence + 1, a)] else [] := by
  unfold insert at h
  split at h
  · cases h
    cases hp : p a <;> simp [select, hp]
  · cases h

theorem sequence_insert {table inserted : AutoTable α} {maxKey : Int} {a : α}
    (h : table.insert maxKey a = some inserted) :
    inserted.sequence = table.sequence + 1 ∧ table.sequence < maxKey := by
  unfold insert at h
  split at h
  · next hlt =>
    cases h
    exact ⟨rfl, hlt⟩
  · cases h

theorem select_deleteFirst (table : AutoTable α) (p : α → Bool) :
    (table.deleteFirst p).select p = (table.select p).tail := by
  change (table.rows.eraseP fun row => p row.2).filter (fun row => p row.2) = _
  unfold select
  induction table.rows with
  | nil => rfl
  | cons row rest ih =>
    cases hp : p row.2 with
    | true => simp [hp]
    | false => simpa [List.eraseP_cons, hp] using ih

theorem select_deleteFirst_of_disjoint (table : AutoTable α) {p q : α → Bool}
    (h : ∀ a, p a = true → q a = false) :
    (table.deleteFirst p).select q = table.select q := by
  change (table.rows.eraseP fun row => p row.2).filter (fun row => q row.2) = _
  unfold select
  induction table.rows with
  | nil => rfl
  | cons row rest ih =>
    cases hp : p row.2 with
    | true => simp [hp, h row.2 hp]
    | false => simp [hp, List.filter_cons, ih]

theorem eq_of_key_eq {table : AutoTable α} {p : α → Bool} {row other : Int × α}
    (hrow : row ∈ table.select p) (hother : other ∈ table.select p) (hkey : row.1 = other.1) :
    row = other := by
  have hnodup : (table.rows.map Prod.fst).Nodup := by
    rw [List.Nodup, List.pairwise_map]
    exact table.ascending.imp ne_of_lt
  exact List.inj_on_of_nodup_map hnodup (List.mem_of_mem_filter hrow)
    (List.mem_of_mem_filter hother) hkey

def row? (table : AutoTable α) (key : Int) : Option α :=
  (table.rows.find? fun row => row.1 = key).map Prod.snd

theorem row?_eq_some_iff {table : AutoTable α} {key : Int} {a : α} :
    table.row? key = some a ↔ (key, a) ∈ table.rows := by
  unfold row?
  rw [Option.map_eq_some_iff]
  constructor
  · rintro ⟨row, hfind, rfl⟩
    have hkey : row.1 = key := by simpa using List.find?_some hfind
    rw [← hkey]
    exact List.mem_of_find?_eq_some hfind
  · intro hmem
    have hfound : (table.rows.find? fun row => row.1 = key).isSome := by
      rw [List.find?_isSome]
      exact ⟨(key, a), hmem, by simp⟩
    obtain ⟨row, hfind⟩ := Option.isSome_iff_exists.mp hfound
    have hkey : row.1 = key := by simpa using List.find?_some hfind
    have hall (row : Int × α) (hrow : row ∈ table.rows) :
        row ∈ table.select fun _ => true := by
      simpa [select] using hrow
    have hsame : row = (key, a) :=
      eq_of_key_eq (hall row (List.mem_of_find?_eq_some hfind)) (hall _ hmem) hkey
    exact ⟨row, hfind, by rw [hsame]⟩

theorem row?_eq_none_iff {table : AutoTable α} {key : Int} :
    table.row? key = none ↔ ∀ row ∈ table.rows, row.1 ≠ key := by
  simp [row?]

theorem row?_insert {table inserted : AutoTable α} {maxKey : Int} {a : α}
    (h : table.insert maxKey a = some inserted) {key : Int} (hkey : key ≤ table.sequence) :
    inserted.row? key = table.row? key := by
  unfold insert at h
  split at h
  · cases h
    have hnew : ¬table.sequence + 1 = key := by omega
    simp [row?, List.find?_append, hnew]
  · cases h

theorem row?_deleteFirst (table : AutoTable α) (p : α → Bool) (key : Int) :
    (table.deleteFirst p).row? key = none ∨
      (table.deleteFirst p).row? key = table.row? key := by
  cases h : (table.deleteFirst p).row? key with
  | none => exact Or.inl rfl
  | some a =>
    right
    have hmem : (key, a) ∈ table.rows :=
      List.mem_of_mem_eraseP (row?_eq_some_iff.mp h)
    exact (row?_eq_some_iff.mpr hmem).symm

theorem row?_update (table : AutoTable α) (key other : Int) (f : α → α) :
    (table.update key f).row? other =
      if other = key then (table.row? other).map f else table.row? other := by
  have hrow (row : Int × α) :
      (if row.1 = key then (row.1, f row.2) else row).1 = row.1 := by
    split <;> rfl
  unfold row? update
  simp only [List.find?_map, Function.comp_def, hrow]
  cases hfind : table.rows.find? fun row => row.1 = other with
  | none => simp
  | some row =>
    have hother : row.1 = other := by simpa using List.find?_some hfind
    by_cases hkey : other = key <;> simp [hother, hkey]

theorem update_eq_of_row?_none {table : AutoTable α} {key : Int} (h : table.row? key = none)
    (f : α → α) : table.update key f = table := by
  have hrows : (table.rows.map fun row => if row.1 = key then (row.1, f row.2) else row) =
      table.rows := by
    rw [row?_eq_none_iff] at h
    calc _ = table.rows.map id := List.map_congr_left fun row hrow => if_neg (h row hrow)
      _ = table.rows := List.map_id _
  obtain ⟨rows, sequence, ascending, bounded⟩ := table
  unfold update
  congr

theorem update_update (table : AutoTable α) (key : Int) {f : α → α} (h : ∀ a, f (f a) = f a) :
    (table.update key f).update key f = table.update key f := by
  unfold update
  congr 1
  rw [List.map_map]
  apply List.map_congr_left
  intro row _
  by_cases hkey : row.1 = key <;> simp [hkey, h]

theorem length_filter_key {rows : List (Int × α)}
    (h : rows.Pairwise fun earlier later => earlier.1 < later.1) (key : Int) :
    (rows.filter fun row => row.1 ≠ key).length + (rows.any (·.1 = key)).toNat = rows.length := by
  induction rows with
  | nil => rfl
  | cons row rest ih =>
    rw [List.pairwise_cons] at h
    have hrest := ih h.2
    by_cases hkey : row.1 = key
    · have hlater : ∀ other ∈ rest, other.1 ≠ key := by
        intro other hother
        have hless := h.1 other hother
        omega
      have hkept : rest.filter (fun row => row.1 ≠ key) = rest :=
        List.filter_eq_self.mpr fun other hother => decide_eq_true (hlater other hother)
      rw [List.filter_cons, if_neg (by simp [hkey]), hkept]
      simp [hkey]
    · rw [List.filter_cons, if_pos (by simp [hkey])]
      simp only [List.length_cons, List.any_cons, hkey, decide_false, Bool.false_or]
      omega

theorem select_update (table : AutoTable α) (key : Int) {f : α → α} {p : α → Bool}
    (h : ∀ a, p (f a) = false) :
    (table.update key f).select p = (table.select p).filter fun row => row.1 ≠ key := by
  change (table.rows.map fun row => if row.1 = key then (row.1, f row.2) else row).filter
    (fun row => p row.2) = _
  unfold select
  induction table.rows with
  | nil => rfl
  | cons row rest ih =>
    rw [List.map_cons, List.filter_cons, ih]
    by_cases hkey : row.1 = key
    · cases hp : p row.2 <;> simp [hkey, h, hp]
    · cases hp : p row.2 <;> simp [hkey, hp]

end AutoTable

end SdvGateway.Library

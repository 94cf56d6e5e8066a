import Mathlib.Data.List.Sort

/-! A table whose rows stand in the descending order of their keys. Putting a row replaces
the one with its key, so neither order nor repetition of the puts matters for the keys. -/
namespace SdvGateway.Library

structure SortedTable (κ α : Type) [LT κ] where
  rows : List (κ × α)
  sorted : rows.Pairwise fun row later => later.1 < row.1

namespace SortedTable

section
variable [LT κ] [DecidableLT κ] [DecidableEq κ]

def insertRow (key : κ) (value : α) : List (κ × α) → List (κ × α)
  | [] => [(key, value)]
  | row :: rest =>
    if row.1 < key then (key, value) :: row :: rest
    else if row.1 = key then (key, value) :: rest
    else row :: insertRow key value rest

theorem mem_insertRow_of_mem {key : κ} {value : α} {rows : List (κ × α)} {row : κ × α}
    (h : row ∈ insertRow key value rows) : row = (key, value) ∨ row ∈ rows := by
  induction rows with
  | nil => exact Or.inl (List.mem_singleton.mp h)
  | cons first rest ih =>
    rw [insertRow] at h
    split at h
    · exact List.mem_cons.mp h
    · split at h
      · exact (List.mem_cons.mp h).imp_right (List.mem_cons_of_mem _)
      · rcases List.mem_cons.mp h with rfl | hrest
        · exact Or.inr List.mem_cons_self
        · exact (ih hrest).imp_right (List.mem_cons_of_mem _)

theorem mem_insertRow (key : κ) (value : α) (rows : List (κ × α)) :
    (key, value) ∈ insertRow key value rows := by
  induction rows with
  | nil => exact List.mem_cons_self
  | cons first rest ih =>
    rw [insertRow]
    split
    · exact List.mem_cons_self
    · split
      · exact List.mem_cons_self
      · exact List.mem_cons_of_mem _ ih

theorem mem_insertRow_of_ne {key : κ} (value : α) {rows : List (κ × α)} {row : κ × α}
    (h : row ∈ rows) (hne : row.1 ≠ key) : row ∈ insertRow key value rows := by
  induction rows with
  | nil => cases h
  | cons first rest ih =>
    rw [insertRow]
    split
    · exact List.mem_cons_of_mem _ h
    · split
      · next heq =>
        rcases List.mem_cons.mp h with rfl | hrest
        · exact absurd heq hne
        · exact List.mem_cons_of_mem _ hrest
      · rcases List.mem_cons.mp h with rfl | hrest
        · exact List.mem_cons_self
        · exact List.mem_cons_of_mem _ (ih hrest)

variable [IsStrictTotalOrder κ (· < ·)]

theorem sorted_insertRow (key : κ) (value : α) {rows : List (κ × α)}
    (h : rows.Pairwise fun row later => later.1 < row.1) :
    (insertRow key value rows).Pairwise fun row later => later.1 < row.1 := by
  induction rows with
  | nil => exact List.pairwise_singleton _ _
  | cons first rest ih =>
    obtain ⟨hfirst, hrest⟩ := List.pairwise_cons.mp h
    rw [insertRow]
    split
    · next hless =>
      refine List.pairwise_cons.mpr ⟨?_, h⟩
      intro row hrow
      rcases List.mem_cons.mp hrow with rfl | hrow
      · exact hless
      · exact IsTrans.trans _ _ _ (hfirst row hrow) hless
    · next hnot =>
      split
      · next heq =>
        subst heq
        exact List.pairwise_cons.mpr ⟨hfirst, hrest⟩
      · next hne =>
        refine List.pairwise_cons.mpr ⟨?_, ih hrest⟩
        intro row hrow
        rcases mem_insertRow_of_mem hrow with rfl | hrow
        · rcases trichotomous_of (· < ·) first.1 key with hless | heq | hmore
          · exact absurd hless hnot
          · exact absurd heq hne
          · exact hmore
        · exact hfirst row hrow

def empty : SortedTable κ α := ⟨[], .nil⟩

def put (table : SortedTable κ α) (row : κ × α) : SortedTable κ α :=
  ⟨insertRow row.1 row.2 table.rows, sorted_insertRow row.1 row.2 table.sorted⟩

def latest (table : SortedTable κ α) (limit : Nat) : List α :=
  (table.rows.take limit).map Prod.snd

def putAll (table : SortedTable κ α) (entries : List (κ × α)) : SortedTable κ α :=
  entries.foldl put table

omit [DecidableLT κ] [DecidableEq κ] in
theorem keys_nodup (table : SortedTable κ α) : (table.rows.map Prod.fst).Nodup := by
  refine List.pairwise_map.mpr (table.sorted.imp fun {row later} hless heq => ?_)
  rw [heq] at hless
  exact irrefl later.1 hless

theorem eq_of_mem_put {table : SortedTable κ α} {entry row : κ × α}
    (h : row ∈ (table.put entry).rows) (hkey : row.1 = entry.1) : row = entry :=
  List.inj_on_of_nodup_map (table.put entry).keys_nodup h
    (mem_insertRow entry.1 entry.2 table.rows) hkey

theorem last_of_mem_putAll {table : SortedTable κ α} {entries : List (κ × α)} {row : κ × α}
    (h : row ∈ (table.putAll entries).rows) :
    (row ∈ table.rows ∧ row.1 ∉ entries.map Prod.fst) ∨
      ∃ earlier later, entries = earlier ++ row :: later ∧ row.1 ∉ later.map Prod.fst := by
  induction entries generalizing table with
  | nil => exact Or.inl ⟨h, List.not_mem_nil⟩
  | cons entry rest ih =>
    rcases ih h with ⟨hrow, hlast⟩ | ⟨earlier, later, rfl, hlast⟩
    · by_cases hkey : row.1 = entry.1
      · obtain rfl := eq_of_mem_put hrow hkey
        exact Or.inr ⟨[], rest, rfl, hlast⟩
      · refine Or.inl ⟨(mem_insertRow_of_mem hrow).resolve_left ?_, ?_⟩
        · rintro rfl
          exact hkey rfl
        · rw [List.map_cons, List.mem_cons, not_or]
          exact ⟨hkey, hlast⟩
    · exact Or.inr ⟨entry :: earlier, later, rfl, hlast⟩

theorem key_mem_put {table : SortedTable κ α} {entry : κ × α} {key : κ} :
    key ∈ (table.put entry).rows.map Prod.fst ↔ key = entry.1 ∨ key ∈ table.rows.map Prod.fst := by
  simp only [List.mem_map]
  refine ⟨?_, ?_⟩
  · rintro ⟨row, hrow, rfl⟩
    rcases mem_insertRow_of_mem hrow with rfl | hold
    · exact Or.inl rfl
    · exact Or.inr ⟨row, hold, rfl⟩
  · intro hkey
    by_cases heq : key = entry.1
    · exact ⟨entry, mem_insertRow entry.1 entry.2 table.rows, heq.symm⟩
    · obtain ⟨row, hrow, rfl⟩ := hkey.resolve_left heq
      exact ⟨row, mem_insertRow_of_ne entry.2 hrow heq, rfl⟩

theorem key_mem_putAll {table : SortedTable κ α} {entries : List (κ × α)} {key : κ} :
    key ∈ (table.putAll entries).rows.map Prod.fst ↔
      key ∈ table.rows.map Prod.fst ∨ key ∈ entries.map Prod.fst := by
  induction entries generalizing table with
  | nil => simp [putAll]
  | cons entry rest ih =>
    change key ∈ ((table.put entry).putAll rest).rows.map Prod.fst ↔ _
    rw [ih, key_mem_put, List.map_cons, List.mem_cons]
    tauto

/-- The table is determined by what was put: however often and in which order the entries
come, the rows stand in the order of the keys. -/
theorem rows_putAll {entries : List (κ × α)} {keys : List κ}
    (hsorted : keys.Pairwise fun key later => later < key)
    (hkeys : ∀ key, key ∈ keys ↔ key ∈ entries.map Prod.fst) :
    (empty.putAll entries).rows.map Prod.fst = keys := by
  have hirrefl : Std.Irrefl fun key later : κ => later < key := ⟨fun key => irrefl key⟩
  have hantisymm : Std.Antisymm fun key later : κ => later < key :=
    ⟨fun a b hab hba => absurd (IsTrans.trans _ _ _ hab hba) (irrefl b)⟩
  apply List.Pairwise.eq_of_mem_iff _ hsorted
  · intro key
    rw [key_mem_putAll, hkeys]
    simp [empty]
  · exact List.pairwise_map.mpr (empty.putAll entries).sorted

theorem forall₂_latest {δ : Type} {entries : List (κ × α)} {docs : List δ} {key : δ → κ}
    {P : δ → α → Prop} (hsorted : (docs.map key).Pairwise fun key later => later < key)
    (hkeys : ∀ k, k ∈ docs.map key ↔ k ∈ entries.map Prod.fst)
    (hvalue : ∀ doc ∈ docs, ∀ value, (key doc, value) ∈ (empty.putAll entries).rows → P doc value)
    (limit : Nat) :
    List.Forall₂ P (docs.take limit) ((empty.putAll entries).latest limit) := by
  have hrows := rows_putAll hsorted hkeys
  have hmatch : List.Forall₂ (fun doc row => key doc = row.1) docs (empty.putAll entries).rows := by
    have hmap : List.Forall₂ (· = ·) (docs.map key) ((empty.putAll entries).rows.map Prod.fst) := by
      rw [hrows, List.forall₂_eq_eq_eq]
    simpa only [List.forall₂_map_left_iff, List.forall₂_map_right_iff] using hmap
  obtain ⟨hlength, hzip⟩ := List.forall₂_iff_zip.mp hmatch
  have hall : List.Forall₂ (fun doc row => P doc row.2) docs (empty.putAll entries).rows := by
    refine List.forall₂_iff_zip.mpr ⟨hlength, ?_⟩
    intro doc row hpair
    obtain ⟨hdoc, hrow⟩ := List.of_mem_zip hpair
    apply hvalue doc hdoc
    rw [hzip hpair]
    exact hrow
  rw [latest, List.forall₂_map_right_iff]
  exact List.forall₂_take limit hall

end

end SortedTable

end SdvGateway.Library

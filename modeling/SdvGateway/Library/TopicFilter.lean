import Mathlib.Data.List.Basic

/-! Topics and topic filters: levels between separators, where the level wildcard
stands for exactly one level. -/
namespace SdvGateway.Library.TopicFilter

variable {α : Type} [DecidableEq α] {sep plus : α}

def matchesLevels (plus : α) : List (List α) → List (List α) → Bool
  | [], [] => true
  | pattern :: filter, level :: topic =>
    (pattern = [plus] || pattern = level) && matchesLevels plus filter topic
  | _, _ => false

def matchesTopic (sep plus : α) (filter topic : List α) : Bool :=
  matchesLevels plus (filter.splitOn sep) (topic.splitOn sep)

theorem matchesLevels_refl (levels : List (List α)) :
    matchesLevels plus levels levels = true := by
  induction levels with
  | nil => rfl
  | cons level rest ih => simp [matchesLevels, ih]

theorem matchesLevels_append {filter topic filter' topic' : List (List α)}
    (h : matchesLevels plus filter topic = true)
    (h' : matchesLevels plus filter' topic' = true) :
    matchesLevels plus (filter ++ filter') (topic ++ topic') = true := by
  induction filter generalizing topic with
  | nil =>
    cases topic with
    | nil => exact h'
    | cons => simp [matchesLevels] at h
  | cons pattern filter ih =>
    cases topic with
    | nil => simp [matchesLevels] at h
    | cons level topic =>
      rw [matchesLevels, Bool.and_eq_true] at h
      rw [List.cons_append, List.cons_append, matchesLevels, h.1, ih h.2]
      rfl

theorem matchesTopic_last {before level : List α} (hplus : plus ≠ sep) (hlevel : sep ∉ level) :
    matchesTopic sep plus (before ++ sep :: [plus]) (before ++ sep :: level) = true := by
  have hwildcard : [plus].splitOn sep = [[plus]] :=
    List.splitOn_eq_singleton (by simpa using hplus.symm)
  rw [matchesTopic, List.splitOn_append_cons_self, List.splitOn_append_cons_self,
    List.splitOn_eq_singleton hlevel, hwildcard]
  exact matchesLevels_append (matchesLevels_refl _) (by simp [matchesLevels])

theorem matchesTopic_between {before level after : List α} (hplus : plus ≠ sep)
    (hlevel : sep ∉ level) :
    matchesTopic sep plus (before ++ sep :: plus :: sep :: after)
      (before ++ sep :: (level ++ sep :: after)) = true := by
  rw [matchesTopic, List.splitOn_append_cons_self, List.splitOn_append_cons_self]
  apply matchesLevels_append (matchesLevels_refl _)
  have hwildcard : (plus :: sep :: after).splitOn sep = [plus] :: after.splitOn sep :=
    List.splitOn_append_cons_self_of_not_mem (by simpa using hplus.symm : sep ∉ [plus]) after
  rw [hwildcard, List.splitOn_append_cons_self_of_not_mem hlevel]
  simp [matchesLevels, matchesLevels_refl]

theorem matchesTopic_second_ne {first level level' rest rest' : List α} (hfirst : sep ∉ first)
    (hlevel : sep ∉ level) (hlevel' : sep ∉ level') (hplus : level ≠ [plus])
    (hne : level ≠ level') :
    matchesTopic sep plus (first ++ sep :: (level ++ sep :: rest))
      (first ++ sep :: (level' ++ sep :: rest')) = false := by
  rw [matchesTopic, List.splitOn_append_cons_self_of_not_mem hfirst,
    List.splitOn_append_cons_self_of_not_mem hfirst,
    List.splitOn_append_cons_self_of_not_mem hlevel,
    List.splitOn_append_cons_self_of_not_mem hlevel']
  simp [matchesLevels, hplus, hne]

end SdvGateway.Library.TopicFilter

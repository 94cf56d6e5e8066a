import Mathlib.Logic.Basic

/-! Machines whose steps are picked by a schedule. An action that is not enabled
ends the run. -/
namespace SdvGateway.Library

structure Machine (σ α : Type) where
  init : σ
  step : σ → α → Option σ

namespace Machine

/-- `P` holds in every state of the run that starts in `s`. -/
def Always (machine : Machine σ α) (P : σ → Prop) : σ → List α → Prop
  | s, [] => P s
  | s, action :: rest =>
    P s ∧
      match machine.step s action with
      | none => True
      | some s' => machine.Always P s' rest

/-- `Q` holds of every step of the run that starts in `s`. -/
def Along (machine : Machine σ α) (Q : σ → α → Prop) : σ → List α → Prop
  | _, [] => True
  | s, action :: rest =>
    match machine.step s action with
    | none => True
    | some s' => Q s action ∧ machine.Along Q s' rest

inductive Reaches (machine : Machine σ α) : σ → σ → Prop
  | refl (s : σ) : machine.Reaches s s
  | step {s middle s' : σ} (action : α) (h : machine.step s action = some middle)
      (rest : machine.Reaches middle s') : machine.Reaches s s'

theorem Reaches.append {machine : Machine σ α} {s middle s' : σ}
    (first : machine.Reaches s middle) (second : machine.Reaches middle s') :
    machine.Reaches s s' := by
  induction first with
  | refl => exact second
  | step action h _ ih => exact .step action h (ih second)

/-- The states of an unbounded schedule. A pick that is not enabled changes nothing. -/
def stateAt (machine : Machine σ α) (schedule : Nat → α) : Nat → σ
  | 0 => machine.init
  | n + 1 =>
    (machine.step (machine.stateAt schedule n) (schedule n)).getD (machine.stateAt schedule n)

theorem stateAt_succ {machine : Machine σ α} {schedule : Nat → α} {n : Nat} {s s' : σ}
    {action : α} (hstate : machine.stateAt schedule n = s) (haction : schedule n = action)
    (hstep : machine.step s action = some s') : machine.stateAt schedule (n + 1) = s' := by
  rw [stateAt, hstate, haction, hstep]
  rfl

theorem invariant_stateAt {machine : Machine σ α} {I : σ → Prop} (hinit : I machine.init)
    (hstep : ∀ s action s', machine.step s action = some s' → I s → I s')
    (schedule : Nat → α) (n : Nat) : I (machine.stateAt schedule n) := by
  induction n with
  | zero => exact hinit
  | succ n ih =>
    unfold stateAt
    cases h : machine.step (machine.stateAt schedule n) (schedule n) with
    | none => exact ih
    | some s' => exact hstep _ _ _ h ih

theorem monotone_stateAt {machine : Machine σ α} {measure : σ → Nat}
    (hstep : ∀ s action s', machine.step s action = some s' → measure s ≤ measure s')
    (schedule : Nat → α) {m n : Nat} (h : m ≤ n) :
    measure (machine.stateAt schedule m) ≤ measure (machine.stateAt schedule n) := by
  induction h with
  | refl => exact Nat.le_refl _
  | @step n _ ih =>
    apply Nat.le_trans ih
    change _ ≤ measure ((machine.step (machine.stateAt schedule n) (schedule n)).getD _)
    cases hn : machine.step (machine.stateAt schedule n) (schedule n) with
    | none => exact Nat.le_refl _
    | some s' => exact hstep _ _ _ hn

def Fair (schedule : Nat → α) : Prop := ∀ action n, ∃ m, n ≤ m ∧ schedule m = action

/-- A rank that no step raises, and an action that lowers it and stays the same until
then, lead every fair schedule to the goal. -/
theorem eventually_of_fair {machine : Machine σ α} {I goal : σ → Prop} (rank : σ → Nat)
    (helper : σ → α) (hinit : I machine.init)
    (hstep : ∀ s action s', machine.step s action = some s' → I s →
      I s' ∧ (rank s' < rank s ∨ rank s' = rank s ∧ helper s' = helper s))
    (hhelps : ∀ s, I s → ¬goal s → ∃ s', machine.step s (helper s) = some s' ∧ rank s' < rank s)
    {schedule : Nat → α} (hfair : Fair schedule) : ∃ n, goal (machine.stateAt schedule n) := by
  apply Classical.byContradiction
  intro hnever
  have hinv := invariant_stateAt hinit (fun s action s' h hs => (hstep s action s' h hs).1)
    schedule
  have hnext (n : Nat) :
      rank (machine.stateAt schedule (n + 1)) < rank (machine.stateAt schedule n) ∨
      rank (machine.stateAt schedule (n + 1)) = rank (machine.stateAt schedule n) ∧
        helper (machine.stateAt schedule (n + 1)) = helper (machine.stateAt schedule n) := by
    rw [stateAt]
    cases h : machine.step (machine.stateAt schedule n) (schedule n) with
    | none => exact Or.inr ⟨rfl, rfl⟩
    | some s' => exact (hstep _ _ _ h (hinv n)).2
  -- The rank goes down once more after every moment.
  have hlower (n : Nat) : ∃ m, rank (machine.stateAt schedule m) <
      rank (machine.stateAt schedule n) := by
    apply Classical.byContradiction
    intro hlowest
    have hstays (k : Nat) : rank (machine.stateAt schedule (n + k)) =
          rank (machine.stateAt schedule n) ∧
        helper (machine.stateAt schedule (n + k)) = helper (machine.stateAt schedule n) := by
      induction k with
      | zero => exact ⟨rfl, rfl⟩
      | succ k ih =>
        obtain hless | ⟨hrank, hhelper⟩ := hnext (n + k)
        · rw [ih.1] at hless
          exact absurd ⟨_, hless⟩ hlowest
        · exact ⟨hrank.trans ih.1, hhelper.trans ih.2⟩
    obtain ⟨m, hm, hpick⟩ := hfair (helper (machine.stateAt schedule n)) n
    obtain ⟨k, rfl⟩ := Nat.exists_eq_add_of_le hm
    obtain ⟨s', hs', hless⟩ := hhelps _ (hinv (n + k)) fun hgoal => hnever ⟨_, hgoal⟩
    rw [(hstays k).2, ← hpick] at hs'
    rw [(hstays k).1, ← stateAt_succ rfl rfl hs'] at hless
    exact hlowest ⟨_, hless⟩
  have hnone (bound n : Nat) : bound ≤ rank (machine.stateAt schedule n) := by
    induction bound generalizing n with
    | zero => exact Nat.zero_le _
    | succ bound ih =>
      obtain ⟨m, hm⟩ := hlower n
      exact Nat.lt_of_le_of_lt (ih m) hm
  exact Nat.lt_irrefl _ (hnone _ 0)

instance decidableAlways (machine : Machine σ α) (P : σ → Prop) [DecidablePred P] :
    (s : σ) → (actions : List α) → Decidable (machine.Always P s actions)
  | s, [] => inferInstanceAs (Decidable (P s))
  | s, action :: rest =>
    have : Decidable (match machine.step s action with
        | none => True
        | some s' => machine.Always P s' rest) :=
      match machine.step s action with
      | none => isTrue trivial
      | some s' => decidableAlways machine P s' rest
    inferInstanceAs (Decidable (_ ∧ _))

theorem always_of_invariant {machine : Machine σ α} {I P : σ → Prop}
    (hstep : ∀ s action s', machine.step s action = some s' → I s → I s')
    (hholds : ∀ s, I s → P s) {s : σ} (hs : I s) (actions : List α) :
    machine.Always P s actions := by
  induction actions generalizing s with
  | nil => exact hholds s hs
  | cons action rest ih =>
    constructor
    · exact hholds s hs
    · split
      · trivial
      · next s' hs' => exact ih (hstep s action s' hs' hs)

theorem along_of_invariant {machine : Machine σ α} {I : σ → Prop} {Q : σ → α → Prop}
    (hstep : ∀ s action s', machine.step s action = some s' → I s → I s')
    (hholds : ∀ s action, I s → Q s action) {s : σ} (hs : I s) (actions : List α) :
    machine.Along Q s actions := by
  induction actions generalizing s with
  | nil => trivial
  | cons action rest ih =>
    unfold Along
    split
    · trivial
    · next s' hs' => exact ⟨hholds s action hs, ih (hstep s action s' hs' hs)⟩

theorem Always.mono {machine : Machine σ α} {P Q : σ → Prop} {s : σ} {actions : List α}
    (h : machine.Always P s actions) (himp : ∀ s, P s → Q s) : machine.Always Q s actions := by
  induction actions generalizing s with
  | nil => exact himp s h
  | cons action rest ih =>
    unfold Always at h ⊢
    cases hstep : machine.step s action with
    | none => exact ⟨himp s h.1, trivial⟩
    | some s' =>
      simp only [hstep] at h
      exact ⟨himp s h.1, ih h.2⟩

theorem Always.and {machine : Machine σ α} {P Q : σ → Prop} {s : σ} {actions : List α}
    (h : machine.Always P s actions) (h' : machine.Always Q s actions) :
    machine.Always (fun s => P s ∧ Q s) s actions := by
  induction actions generalizing s with
  | nil => exact ⟨h, h'⟩
  | cons action rest ih =>
    unfold Always at h h' ⊢
    cases hstep : machine.step s action with
    | none => exact ⟨⟨h.1, h'.1⟩, trivial⟩
    | some s' =>
      simp only [hstep] at h h'
      exact ⟨⟨h.1, h'.1⟩, ih h.2 h'.2⟩

theorem holds_of_reaches {machine : Machine σ α} {P : σ → Prop} {s s' : σ}
    (hreach : machine.Reaches s s') (h : ∀ actions, machine.Always P s actions) : P s' := by
  induction hreach with
  | refl s => exact h []
  | step action hstep _ ih =>
    apply ih
    intro actions
    have hall := h (action :: actions)
    unfold Always at hall
    simp only [hstep] at hall
    exact hall.2

theorem along_congr {machine : Machine σ α} {Q Q' : σ → α → Prop} {actions : List α}
    (h : ∀ s, ∀ action ∈ actions, Q s action ↔ Q' s action) (s : σ) :
    machine.Along Q s actions ↔ machine.Along Q' s actions := by
  induction actions generalizing s with
  | nil => rfl
  | cons action rest ih =>
    unfold Along
    cases machine.step s action with
    | none => rfl
    | some s' =>
      have hfirst : Q s action ↔ Q' s action := h s action List.mem_cons_self
      have hrest := ih (fun s a ha => h s a (List.mem_cons_of_mem _ ha)) s'
      simp only [hfirst, hrest]

/-- When a step keeps the invariant exactly if it meets the guard, so does a run. -/
theorem always_iff_along {machine : Machine σ α} {P : σ → Prop} {Q : σ → α → Prop}
    (hexact : ∀ s action s', machine.step s action = some s' → P s → (P s' ↔ Q s action))
    {s : σ} (hs : P s) (actions : List α) :
    machine.Always P s actions ↔ machine.Along Q s actions := by
  induction actions generalizing s with
  | nil => simp [Always, Along, hs]
  | cons action rest ih =>
    unfold Always Along
    cases hstep : machine.step s action with
    | none => simp [hs]
    | some s' =>
      have hguard := hexact s action s' hstep hs
      by_cases hnext : P s'
      · simp only [hs, true_and, ih hnext, hguard.mp hnext]
      · have hbroken : ¬machine.Always P s' rest := by
          cases rest with
          | nil => exact hnext
          | cons => exact fun h => hnext h.1
        simp only [hs, true_and, hbroken, false_iff]
        exact fun h => hnext (hguard.mpr h.1)

end Machine

end SdvGateway.Library

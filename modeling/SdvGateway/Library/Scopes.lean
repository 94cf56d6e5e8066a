import Mathlib.Algebra.GroupWithZero.Nat
import Mathlib.Algebra.Order.BigOperators.Group.Finset
import Mathlib.Logic.Function.Basic
import SdvGateway.Library.Machine

/-! A main thread that acquires and releases resources, and the threads it starts and
joins, which use them. A check of the text of the main thread tells that no schedule lets
a thread use what is not held, and that a fair one lets the main thread return. -/
namespace SdvGateway.Library

/-- A step of the main thread. A release of what is not held and a join of a thread that
was never started do nothing. An attempt is a use that the resource refuses when it is not
held, which the main thread survives. -/
inductive ScopeOp (τ ρ : Type) where
  | acquire (r : ρ)
  | release (r : ρ)
  | touch (r : ρ)
  | attempt (r : ρ)
  | spawn (t : τ)
  | clear (t : τ)
  | join (t : τ)

namespace Scopes

/-- A thread tests its flag, takes a turn and tests again. -/
inductive Thread where
  | absent
  | atTest
  | working
  | exited
deriving DecidableEq

namespace Thread

def live : Thread → Bool
  | .atTest | .working => true
  | _ => false

def remaining : Thread → Nat
  | .atTest => 1
  | .working => 2
  | _ => 0

end Thread

/-- `running` has the threads whose flag is set, `refused` the attempts that were refused. -/
structure State (τ ρ : Type) where
  rest : List (ScopeOp τ ρ)
  held : List ρ
  running : List τ
  thread : τ → Thread
  refused : List ρ

inductive Action (τ : Type) where
  | main
  | thread (t : τ)

section
variable {τ ρ : Type} [DecidableEq τ] [DecidableEq ρ]

def perform (s : State τ ρ) : ScopeOp τ ρ → Option (State τ ρ)
  | .acquire r => some { s with held := r :: s.held }
  | .release r => some { s with held := s.held.filter (· ≠ r) }
  | .touch _ => some s
  | .attempt r => some (if r ∈ s.held then s else { s with refused := s.refused ++ [r] })
  | .spawn t =>
    some { s with
      running := t :: s.running
      thread := Function.update s.thread t .atTest }
  | .clear t => some { s with running := s.running.filter (· ≠ t) }
  | .join t =>
    if (s.thread t).live then none
    else some { s with thread := Function.update s.thread t .absent }

def stepMain (s : State τ ρ) : Option (State τ ρ) :=
  match s.rest with
  | [] => none
  | op :: rest => perform { s with rest := rest } op

def stepThread (s : State τ ρ) (t : τ) : Option (State τ ρ) :=
  match s.thread t with
  | .atTest =>
    some { s with
      thread := Function.update s.thread t (if t ∈ s.running then .working else .exited) }
  | .working => some { s with thread := Function.update s.thread t .atTest }
  | _ => none

def machine (program : List (ScopeOp τ ρ)) : Machine (State τ ρ) (Action τ) where
  init := ⟨program, [], [], fun _ => .absent, []⟩
  step
    | s, .main => stepMain s
    | s, .thread t => stepThread s t

structure Known (τ ρ : Type) where
  held : List ρ
  running : List τ
  joinable : List τ
  refused : List ρ
deriving DecidableEq

def Known.nothing : Known τ ρ := ⟨[], [], [], []⟩

def Known.ended (refused : List ρ) : Known τ ρ := ⟨[], [], [], refused⟩

/-- One step of the check. A thread may be started when all it uses is held, and what it
uses may be released when it has been joined. -/
def check (uses : τ → List ρ) (known : Known τ ρ) : ScopeOp τ ρ → Option (Known τ ρ)
  | .acquire r =>
    if r ∈ known.held then none else some { known with held := r :: known.held }
  | .release r =>
    if ∃ t ∈ known.joinable, r ∈ uses t then none
    else some { known with held := known.held.filter (· ≠ r) }
  | .touch r => if r ∈ known.held then some known else none
  | .attempt r =>
    some (if r ∈ known.held then known else { known with refused := known.refused ++ [r] })
  | .spawn t =>
    if t ∈ known.joinable ∨ ∃ r ∈ uses t, r ∉ known.held then none
    else some { known with running := t :: known.running, joinable := t :: known.joinable }
  | .clear t => some { known with running := known.running.filter (· ≠ t) }
  | .join t =>
    if t ∈ known.running then none
    else some { known with joinable := known.joinable.filter (· ≠ t) }

def checks (uses : τ → List ρ) (known : Known τ ρ) (program : List (ScopeOp τ ρ)) :
    Option (Known τ ρ) :=
  program.foldlM (check uses) known

theorem checks_append {uses : τ → List ρ} {known middle : Known τ ρ}
    {first : List (ScopeOp τ ρ)} (h : checks uses known first = some middle)
    (second : List (ScopeOp τ ρ)) :
    checks uses known (first ++ second) = checks uses middle second := by
  unfold checks at h ⊢
  rw [List.foldlM_append, h]
  rfl

theorem checks_touch {uses : τ → List ρ} {known : Known τ ρ} {resources : List ρ}
    (h : ∀ r ∈ resources, r ∈ known.held) :
    checks uses known (resources.map .touch) = some known := by
  induction resources with
  | nil => rfl
  | cons r rest ih =>
    obtain ⟨hr, hrest⟩ := List.forall_mem_cons.mp h
    have hfirst : checks uses known [.touch r] = some known := by
      simp only [checks, List.foldlM_cons, check, if_pos hr, Option.bind_eq_bind,
        Option.bind_some, List.foldlM_nil]
      rfl
    exact (checks_append hfirst _).trans (ih hrest)

structure Sync (uses : τ → List ρ) (known : Known τ ρ) (s : State τ ρ) : Prop where
  held : s.held = known.held
  running : s.running = known.running
  joinable : ∀ t, t ∈ known.joinable ↔ s.thread t ≠ .absent
  used : ∀ t ∈ known.joinable, ∀ r ∈ uses t, r ∈ known.held
  exited : ∀ t, s.thread t = .exited → t ∉ known.running
  refused : s.refused = known.refused

def Allowed (s : State τ ρ) : ScopeOp τ ρ → Prop
  | .acquire r => r ∉ s.held
  | .touch r => r ∈ s.held
  | .spawn t => s.thread t = .absent
  | .attempt _ | .release _ | .clear _ | .join _ => True

/-- Every thread that has not exited holds what it uses, and so does the main thread. -/
structure Sound (uses : τ → List ρ) (s : State τ ρ) : Prop where
  threads : ∀ t, (s.thread t).live = true → ∀ r ∈ uses t, r ∈ s.held
  main : ∀ op rest, s.rest = op :: rest → Allowed s op

theorem sync_nothing (uses : τ → List ρ) (program : List (ScopeOp τ ρ)) :
    Sync uses .nothing (machine program).init where
  held := rfl
  running := rfl
  joinable t := by simp [Known.nothing, machine]
  used t ht := absurd ht List.not_mem_nil
  exited t ht := by simp [machine] at ht
  refused := rfl

variable {uses : τ → List ρ} {known known' : Known τ ρ} {s s' : State τ ρ} {refused : List ρ}

theorem Sync.allowed (h : Sync uses known s) {op : ScopeOp τ ρ}
    (hcheck : check uses known op = some known') : Allowed s op := by
  cases op with
  | acquire r =>
    simp only [check, Option.ite_none_left_eq_some] at hcheck
    simpa only [Allowed, h.held] using hcheck.1
  | touch r =>
    simp only [check, Option.ite_none_right_eq_some] at hcheck
    simpa only [Allowed, h.held] using hcheck.1
  | spawn t =>
    simp only [check, Option.ite_none_left_eq_some, not_or] at hcheck
    rw [h.joinable] at hcheck
    exact Classical.not_not.mp hcheck.1.1
  | attempt | release | clear | join => trivial

theorem Sync.main (h : Sync uses known s) {op : ScopeOp τ ρ} {rest : List (ScopeOp τ ρ)}
    (hrest : s.rest = op :: rest) (hcheck : check uses known op = some known')
    (hstep : stepMain s = some s') : Sync uses known' s' ∧ s'.rest = rest := by
  rw [stepMain, hrest] at hstep
  cases op with
  | acquire r =>
    simp only [check, Option.ite_none_left_eq_some, Option.some.injEq] at hcheck
    obtain ⟨-, rfl⟩ := hcheck
    cases hstep
    refine ⟨⟨congrArg (r :: ·) h.held, h.running, h.joinable, ?_, h.exited, h.refused⟩, rfl⟩
    exact fun t ht r hr => List.mem_cons_of_mem _ (h.used t ht r hr)
  | release r =>
    simp only [check, Option.ite_none_left_eq_some, Option.some.injEq] at hcheck
    obtain ⟨hunused, rfl⟩ := hcheck
    cases hstep
    refine ⟨⟨congrArg (List.filter (· ≠ r)) h.held, h.running, h.joinable, ?_, h.exited,
      h.refused⟩, rfl⟩
    intro t ht r' hr'
    rw [List.mem_filter, decide_eq_true_eq]
    exact ⟨h.used t ht r' hr', fun heq => hunused ⟨t, ht, heq ▸ hr'⟩⟩
  | touch r =>
    simp only [check, Option.ite_none_right_eq_some, Option.some.injEq] at hcheck
    obtain ⟨-, rfl⟩ := hcheck
    cases hstep
    exact ⟨⟨h.held, h.running, h.joinable, h.used, h.exited, h.refused⟩, rfl⟩
  | attempt r =>
    cases hcheck
    cases hstep
    by_cases hr : r ∈ known.held
    · rw [if_pos hr, if_pos (h.held ▸ hr)]
      exact ⟨⟨h.held, h.running, h.joinable, h.used, h.exited, h.refused⟩, rfl⟩
    · rw [if_neg hr, if_neg (h.held ▸ hr)]
      exact ⟨⟨h.held, h.running, h.joinable, h.used, h.exited, congrArg (· ++ [r]) h.refused⟩, rfl⟩
  | spawn t =>
    simp only [check, Option.ite_none_left_eq_some, not_or, Option.some.injEq] at hcheck
    obtain ⟨⟨-, hheld⟩, rfl⟩ := hcheck
    cases hstep
    refine ⟨⟨h.held, congrArg (t :: ·) h.running, fun u => ?_, fun u hu => ?_, fun u hu => ?_,
      h.refused⟩, rfl⟩
    · by_cases hut : u = t
      · simp [hut]
      · simp [hut, h.joinable]
    · obtain rfl | hu := List.mem_cons.mp hu
      · simpa using hheld
      · exact h.used u hu
    · dsimp only at hu
      by_cases hut : u = t
      · simp [hut] at hu
      · rw [Function.update_of_ne hut] at hu
        simpa [hut] using h.exited u hu
  | clear t =>
    cases hcheck
    cases hstep
    refine ⟨⟨h.held, congrArg (List.filter (· ≠ t)) h.running, h.joinable, h.used, ?_,
      h.refused⟩, rfl⟩
    exact fun u hu hmem => h.exited u hu (List.mem_of_mem_filter hmem)
  | join t =>
    simp only [check, Option.ite_none_left_eq_some, Option.some.injEq] at hcheck
    obtain ⟨-, rfl⟩ := hcheck
    simp only [perform, Option.ite_none_left_eq_some, Option.some.injEq] at hstep
    obtain ⟨-, rfl⟩ := hstep
    refine ⟨⟨h.held, h.running, fun u => ?_, fun u hu => ?_, fun u hu => ?_, h.refused⟩, rfl⟩
    · by_cases hut : u = t
      · simp [hut]
      · simp [hut, h.joinable]
    · exact h.used u (List.mem_of_mem_filter hu)
    · dsimp only at hu
      by_cases hut : u = t
      · simp [hut] at hu
      · rw [Function.update_of_ne hut] at hu
        exact h.exited u hu

omit [DecidableEq ρ] in
theorem Sync.thread (h : Sync uses known s) {t : τ} (hstep : stepThread s t = some s') :
    Sync uses known s' ∧ s'.rest = s.rest := by
  obtain ⟨phase, hphase, hpresent, hexited, rfl⟩ : ∃ phase, s.thread t ≠ .absent ∧
      phase ≠ .absent ∧ (phase = .exited → t ∉ s.running) ∧
        s' = { s with thread := Function.update s.thread t phase } := by
    unfold stepThread at hstep
    split at hstep
    · next hthread =>
      refine ⟨_, by simp [hthread], ?_, ?_, (Option.some.inj hstep).symm⟩
      · split <;> simp
      · split <;> simp [*]
    · next hthread =>
      exact ⟨_, by simp [hthread], by simp, by simp, (Option.some.inj hstep).symm⟩
    · cases hstep
  refine ⟨⟨h.held, h.running, fun u => ?_, h.used, fun u hu => ?_, h.refused⟩, rfl⟩
  · by_cases hut : u = t
    · subst hut
      simp [h.joinable, hphase, hpresent]
    · simp [hut, h.joinable]
  · dsimp only at hu
    by_cases hut : u = t
    · subst hut
      rw [Function.update_self] at hu
      exact h.running ▸ hexited hu
    · rw [Function.update_of_ne hut] at hu
      exact h.exited u hu

def Checked (uses : τ → List ρ) (refused : List ρ) (s : State τ ρ) : Prop :=
  ∃ known, Sync uses known s ∧ checks uses known s.rest = some (.ended refused)

theorem Checked.step (h : Checked uses refused s) {program : List (ScopeOp τ ρ)} {action : Action τ}
    (hstep : (machine program).step s action = some s') : Checked uses refused s' := by
  obtain ⟨known, hsync, hchecks⟩ := h
  cases action with
  | main =>
    cases hrest : s.rest with
    | nil =>
      simp only [machine, stepMain, hrest] at hstep
      cases hstep
    | cons op rest =>
      rw [hrest, checks, List.foldlM_cons] at hchecks
      obtain ⟨known', hcheck, hchecks⟩ := Option.bind_eq_some_iff.mp hchecks
      obtain ⟨hsync', hrest'⟩ := hsync.main hrest hcheck hstep
      exact ⟨known', hsync', by rw [hrest']; exact hchecks⟩
  | thread t =>
    obtain ⟨hsync', hrest'⟩ := hsync.thread hstep
    exact ⟨known, hsync', by rw [hrest']; exact hchecks⟩

theorem Checked.sound (h : Checked uses refused s) : Sound uses s := by
  obtain ⟨known, hsync, hchecks⟩ := h
  refine ⟨fun t ht r hr => ?_, fun op rest hrest => ?_⟩
  · rw [hsync.held]
    apply hsync.used t _ r hr
    rw [hsync.joinable]
    intro habsent
    rw [habsent] at ht
    cases ht
  · rw [hrest, checks, List.foldlM_cons] at hchecks
    obtain ⟨known', hcheck, -⟩ := Option.bind_eq_some_iff.mp hchecks
    exact hsync.allowed hcheck

theorem Checked.nothing_left (h : Checked uses refused s) (hrest : s.rest = []) :
    s.held = [] ∧ (∀ t, s.thread t = .absent) ∧ s.refused = refused := by
  obtain ⟨known, hsync, hchecks⟩ := h
  rw [hrest] at hchecks
  cases hchecks
  refine ⟨hsync.held, fun t => ?_, hsync.refused⟩
  have ht := hsync.joinable t
  simpa [Known.ended] using ht

theorem refused_of_check {op : ScopeOp τ ρ} (h : check uses known op = some known') :
    known.refused <+: known'.refused := by
  cases op with
  | attempt r =>
    cases h
    split
    · exact List.prefix_refl _
    · exact List.prefix_append _ _
  | clear t =>
    cases h
    exact List.prefix_refl _
  | touch r =>
    simp only [check, Option.ite_none_right_eq_some, Option.some.injEq] at h
    obtain ⟨-, rfl⟩ := h
    exact List.prefix_refl _
  | acquire | release | spawn | join =>
    simp only [check, Option.ite_none_left_eq_some, Option.some.injEq] at h
    obtain ⟨-, rfl⟩ := h
    exact List.prefix_refl _

theorem refused_of_checks {program : List (ScopeOp τ ρ)}
    (h : checks uses known program = some known') : known.refused <+: known'.refused := by
  induction program generalizing known with
  | nil =>
    cases h
    exact List.prefix_refl _
  | cons op rest ih =>
    rw [checks, List.foldlM_cons] at h
    obtain ⟨middle, hcheck, hrest⟩ := Option.bind_eq_some_iff.mp h
    exact (refused_of_check hcheck).trans (ih hrest)

theorem Checked.refused_prefix (h : Checked uses refused s) : s.refused <+: refused := by
  obtain ⟨known, hsync, hchecks⟩ := h
  rw [hsync.refused]
  exact refused_of_checks hchecks

theorem Checked.cleared (h : Checked uses refused s) {t : τ} {rest : List (ScopeOp τ ρ)}
    (hrest : s.rest = .join t :: rest) : t ∉ s.running := by
  obtain ⟨known, hsync, hchecks⟩ := h
  rw [hrest, checks, List.foldlM_cons] at hchecks
  obtain ⟨known', hcheck, -⟩ := Option.bind_eq_some_iff.mp hchecks
  simp only [check, Option.ite_none_left_eq_some] at hcheck
  rw [hsync.running]
  exact hcheck.1

/-- Whatever the schedule, no thread uses what is not held, and where the main thread ends
nothing is held, no thread is left, and the attempts that the check tells were refused. -/
theorem sound_of_checked {program : List (ScopeOp τ ρ)}
    (h : checks uses .nothing program = some (.ended refused)) (actions : List (Action τ)) :
    (machine program).Always (fun s => Sound uses s ∧ s.refused <+: refused ∧
      (s.rest = [] → s.held = [] ∧ (∀ t, s.thread t = .absent) ∧ s.refused = refused))
      (machine program).init actions := by
  apply Machine.always_of_invariant (I := Checked uses refused)
  · exact fun s action s' hstep hs => hs.step hstep
  · exact fun s hs => ⟨hs.sound, hs.refused_prefix, hs.nothing_left⟩
  · exact ⟨.nothing, sync_nothing uses program, h⟩

/-- The steps that a thread still takes once its flag is cleared. -/
def owed (s : State τ ρ) (t : τ) : Nat := if t ∈ s.running then 0 else (s.thread t).remaining

def extra : ScopeOp τ ρ → τ → Nat
  | .clear t, u => if u = t then 2 else 0
  | _, _ => 0

theorem remaining_le (phase : Thread) : phase.remaining ≤ 2 := by cases phase <;> decide

theorem owed_perform {op : ScopeOp τ ρ} (hallowed : Allowed s op) (hstep : perform s op = some s')
    (u : τ) : owed s' u ≤ owed s u + extra op u := by
  cases op with
  | acquire | release | touch =>
    cases hstep
    exact Nat.le_refl _
  | attempt r =>
    cases hstep
    split <;> exact Nat.le_refl _
  | spawn t =>
    cases hstep
    unfold owed
    by_cases hut : u = t
    · simp [hut]
    · simp [hut, extra]
  | clear t =>
    cases hstep
    unfold owed
    by_cases hut : u = t
    · simpa [hut, extra] using Nat.le_add_left_of_le (remaining_le _)
    · simp [hut, extra]
  | join t =>
    simp only [perform, Option.ite_none_left_eq_some, Option.some.injEq] at hstep
    obtain ⟨-, rfl⟩ := hstep
    unfold owed
    by_cases hut : u = t
    · simp [hut, Thread.remaining]
    · simp [hut, extra]

omit [DecidableEq ρ] in
theorem owed_thread {t : τ} (hstep : stepThread s t = some s') :
    s'.rest = s.rest ∧ s'.running = s.running ∧ (∀ u, u ≠ t → s'.thread u = s.thread u) ∧
      (t ∉ s.running → owed s' t < owed s t) := by
  unfold stepThread at hstep
  split at hstep
  · next hthread =>
    cases hstep
    refine ⟨rfl, rfl, fun u hut => Function.update_of_ne hut _ _, fun ht => ?_⟩
    simp [owed, ht, hthread, Thread.remaining]
  · next hthread =>
    cases hstep
    refine ⟨rfl, rfl, fun u hut => Function.update_of_ne hut _ _, fun ht => ?_⟩
    simp [owed, ht, hthread, Thread.remaining]
  · cases hstep

def awaited (s : State τ ρ) : Action τ :=
  match s.rest with
  | .join t :: _ => if (s.thread t).live then .thread t else .main
  | _ => .main

theorem awaited_thread (h : Checked uses refused s) {t : τ} (hstep : stepThread s t = some s')
    (ht : t ∈ s.running) : awaited s' = awaited s := by
  obtain ⟨hrest, -, hothers, -⟩ := owed_thread hstep
  unfold awaited
  rw [hrest]
  split
  · next u rest hu =>
    have hut : u ≠ t := fun heq => h.cleared hu (heq ▸ ht)
    rw [hothers u hut]
  · rfl

section
variable [Fintype τ]

/-- How many steps the main thread waits for, its own and those of the threads. -/
def rank (s : State τ ρ) : Nat :=
  (s.rest.map fun op => 1 + ∑ t, extra op t).sum + ∑ t, owed s t

theorem rank_main (h : Checked uses refused s) (hstep : stepMain s = some s') :
    rank s' < rank s := by
  have hsound := h.sound
  cases hrest : s.rest with
  | nil =>
    rw [stepMain, hrest] at hstep
    cases hstep
  | cons op rest =>
    rw [stepMain, hrest] at hstep
    have hallowed : Allowed { s with rest := rest } op := by
      have hop := hsound.main op rest hrest
      cases op <;> exact hop
    have howed := Finset.sum_le_sum fun u (_ : u ∈ Finset.univ) => owed_perform hallowed hstep u
    rw [Finset.sum_add_distrib] at howed
    have hsame : ∑ u, owed { s with rest := rest } u = ∑ u, owed s u := rfl
    have hrest' : s'.rest = rest := by
      cases op with
      | join t =>
        simp only [perform, Option.ite_none_left_eq_some, Option.some.injEq] at hstep
        exact hstep.2 ▸ rfl
      | attempt r =>
        cases hstep
        split <;> rfl
      | _ => cases hstep; rfl
    unfold rank
    rw [hrest', hrest, List.map_cons, List.sum_cons]
    omega

omit [DecidableEq ρ] in
theorem rank_thread {t : τ} (hstep : stepThread s t = some s') :
    rank s' ≤ rank s ∧ (t ∉ s.running → rank s' < rank s) := by
  obtain ⟨hrest, hrunning, hothers, hless⟩ := owed_thread hstep
  have hne (u : τ) (hut : u ≠ t) : owed s' u = owed s u := by
    unfold owed
    rw [hrunning, hothers u hut]
  have hle (u : τ) : owed s' u ≤ owed s u := by
    by_cases hut : u = t
    · subst hut
      by_cases hu : u ∈ s.running
      · simp [owed, hrunning, hu]
      · exact Nat.le_of_lt (hless hu)
    · exact Nat.le_of_eq (hne u hut)
  unfold rank
  rw [hrest]
  refine ⟨Nat.add_le_add_left (Finset.sum_le_sum fun u _ => hle u) _, fun ht => ?_⟩
  apply Nat.add_lt_add_left
  exact Finset.sum_lt_sum (fun u _ => hle u) ⟨t, Finset.mem_univ t, hless ht⟩

theorem Checked.progress (h : Checked uses refused s) (program : List (ScopeOp τ ρ))
    (hrest : s.rest ≠ []) :
    ∃ s', (machine program).step s (awaited s) = some s' ∧ rank s' < rank s := by
  cases hs : s.rest with
  | nil => exact absurd hs hrest
  | cons op rest =>
    cases op with
    | join t =>
      rw [awaited, hs]
      dsimp only
      split
      · next hlive =>
        obtain ⟨s', hs'⟩ : ∃ s', stepThread s t = some s' := by
          unfold stepThread
          cases hthread : s.thread t with
          | atTest | working => exact ⟨_, rfl⟩
          | absent | exited =>
            rw [hthread] at hlive
            cases hlive
        exact ⟨s', hs', (rank_thread hs').2 (h.cleared hs)⟩
      · next hlive =>
        have hs' : stepMain s =
            some { s with rest := rest, thread := Function.update s.thread t .absent } := by
          rw [stepMain, hs]
          exact if_neg hlive
        exact ⟨_, hs', rank_main h hs'⟩
    | _ =>
      have hmain : ∃ s', stepMain s = some s' := by
        rw [stepMain, hs]
        exact ⟨_, rfl⟩
      obtain ⟨s', hs'⟩ := hmain
      rw [awaited, hs]
      exact ⟨s', hs', rank_main h hs'⟩

theorem returns_of_checked {program : List (ScopeOp τ ρ)}
    (h : checks uses .nothing program = some (.ended refused)) {schedule : Nat → Action τ}
    (hfair : Machine.Fair schedule) :
    ∃ n, ((machine program).stateAt schedule n).rest = [] := by
  apply Machine.eventually_of_fair (I := Checked uses refused) rank awaited
    ⟨.nothing, sync_nothing uses program, h⟩ _ (fun s hs => hs.progress program) hfair
  intro s action s' hstep hs
  refine ⟨hs.step hstep, ?_⟩
  cases action with
  | main => exact Or.inl (rank_main hs hstep)
  | thread t =>
    obtain ⟨hle, hless⟩ := rank_thread hstep
    by_cases ht : t ∈ s.running
    · obtain hlt | heq := Nat.lt_or_eq_of_le hle
      · exact Or.inl hlt
      · exact Or.inr ⟨heq, awaited_thread hs hstep ht⟩
    · exact Or.inl (hless ht)

end

end

end Scopes

end SdvGateway.Library

import Mathlib.Data.Fintype.Card
import Mathlib.Logic.Function.Basic
import SdvGateway.Library.Machine

/-! Threads that share a value through one lock and one condition variable. A waiting
thread can be woken by a notification, by its timeout or for no reason. -/
namespace SdvGateway.Library

inductive Notify where
  | nobody
  | one
  | all
deriving DecidableEq

/-- An operation takes the lock, waits until it is ready or its time is up, acts on the
value and leaves. It notifies one thread after it has left, or all before. -/
structure Monitor (σ op ρ : Type) where
  init : σ
  ready : op → σ → Bool
  timed : op → Bool
  act : op → σ → σ × ρ
  notify : op → Notify

namespace Monitor

inductive Phase (op ρ : Type) where
  | idle
  | entering (o : op)
  | testing (o : op)
  | asleep (o : op)
  | woken (o : op) (expired : Bool)
  | acting (o : op)
  | notifying (o : op) (r : ρ)
  | leaving (o : op) (r : ρ)
  | left (o : op) (r : ρ)

namespace Phase

def inside : Phase op ρ → Bool
  | .testing _ | .acting _ | .notifying _ _ | .leaving _ _ => true
  | _ => false

def isAsleep : Phase op ρ → Bool
  | .asleep _ => true
  | _ => false

def pending : Phase op ρ → List (op × ρ)
  | .notifying o r | .leaving o r | .left o r => [(o, r)]
  | _ => []

def wake : Phase op ρ → Phase op ρ
  | .asleep o => .woken o false
  | phase => phase

@[simp] theorem inside_wake (phase : Phase op ρ) : phase.wake.inside = phase.inside := by
  cases phase <;> rfl

@[simp] theorem pending_wake (phase : Phase op ρ) : phase.wake.pending = phase.pending := by
  cases phase <;> rfl

@[simp] theorem isAsleep_wake (phase : Phase op ρ) : phase.wake.isAsleep = false := by
  cases phase <;> rfl

end Phase

/-- `history` has every action on the value in the order in which it happened, and
`returned` the calls that each thread has got back from. -/
structure State (τ σ op ρ : Type) where
  lock : Option τ
  shared : σ
  phase : τ → Phase op ρ
  history : List (τ × op × ρ)
  returned : τ → List (op × ρ)

inductive Action (τ op : Type) where
  | call (t : τ) (o : op)
  | run (t : τ)
  | notify (t : τ) (sleeper : Option τ)
  | spurious (t : τ)
  | expire (t : τ)

section
variable {τ σ op ρ : Type} [DecidableEq τ] [Fintype τ]

def State.move (s : State τ σ op ρ) (t : τ) (phase : Phase op ρ) : State τ σ op ρ :=
  { s with phase := Function.update s.phase t phase }

def State.finish (s : State τ σ op ρ) (t : τ) (o : op) (r : ρ) : State τ σ op ρ :=
  { s.move t .idle with returned := Function.update s.returned t (s.returned t ++ [(o, r)]) }

def State.wakeAll (s : State τ σ op ρ) : State τ σ op ρ :=
  { s with phase := fun u => (s.phase u).wake }

/-- A thread holds the lock from where it enters to where it leaves or falls asleep. -/
def runThread (m : Monitor σ op ρ) (s : State τ σ op ρ) (t : τ) : Option (State τ σ op ρ) :=
  match s.phase t with
  | .entering o =>
    if s.lock.isNone then some { s.move t (.testing o) with lock := some t } else none
  | .woken o expired =>
    if s.lock.isNone then
      some { s.move t (if expired then .acting o else .testing o) with lock := some t }
    else none
  | .testing o =>
    if m.ready o s.shared then some (s.move t (.acting o))
    else some { s.move t (.asleep o) with lock := none }
  | .acting o =>
    let (shared, r) := m.act o s.shared
    some { s.move t (if m.notify o = .all then .notifying o r else .leaving o r) with
      shared := shared
      history := s.history ++ [(t, o, r)] }
  | .notifying o r => some (s.wakeAll.move t (.leaving o r))
  | .leaving o r =>
    if m.notify o = .one then some { s.move t (.left o r) with lock := none }
    else some { s.finish t o r with lock := none }
  | _ => none

def step (m : Monitor σ op ρ) (s : State τ σ op ρ) : Action τ op → Option (State τ σ op ρ)
  | .call t o =>
    match s.phase t with
    | .idle => some (s.move t (.entering o))
    | _ => none
  | .run t => m.runThread s t
  | .notify t sleeper =>
    match s.phase t with
    | .left o r =>
      match sleeper with
      | some u =>
        if (s.phase u).isAsleep then some ((s.move u (s.phase u).wake).finish t o r) else none
      | none => if ∀ u, (s.phase u).isAsleep = false then some (s.finish t o r) else none
    | _ => none
  | .spurious t =>
    match s.phase t with
    | .asleep o => some (s.move t (.woken o false))
    | _ => none
  | .expire t =>
    match s.phase t with
    | .asleep o | .woken o false => if m.timed o then some (s.move t (.woken o true)) else none
    | _ => none

def machine (m : Monitor σ op ρ) : Machine (State τ σ op ρ) (Action τ op) where
  init := ⟨none, m.init, fun _ => .idle, [], fun _ => []⟩
  step := m.step

end

/-- Calls one after another, each of them ready or out of time. -/
inductive Runs (m : Monitor σ op ρ) : List (τ × op × ρ) → σ → Prop
  | nil : m.Runs [] m.init
  | snoc {history : List (τ × op × ρ)} {x : σ} (earlier : m.Runs history x) (t : τ) (o : op)
      (hready : m.ready o x = true ∨ m.timed o = true) :
      m.Runs (history ++ [(t, o, (m.act o x).2)]) (m.act o x).1

section
variable {τ σ op ρ : Type} [DecidableEq τ] {m : Monitor σ op ρ}

inductive Steps (m : Monitor σ op ρ) (s : State τ σ op ρ) :
    Action τ op → State τ σ op ρ → Prop
  | called (t : τ) (o : op) (hphase : s.phase t = .idle) :
      Steps m s (.call t o) (s.move t (.entering o))
  | entered (t : τ) (o : op) (hphase : s.phase t = .entering o ∨ s.phase t = .woken o false)
      (hlock : s.lock = none) :
      Steps m s (.run t) { s.move t (.testing o) with lock := some t }
  | resumed (t : τ) (o : op) (hphase : s.phase t = .woken o true) (hlock : s.lock = none) :
      Steps m s (.run t) { s.move t (.acting o) with lock := some t }
  | passed (t : τ) (o : op) (hphase : s.phase t = .testing o)
      (hready : m.ready o s.shared = true) : Steps m s (.run t) (s.move t (.acting o))
  | slept (t : τ) (o : op) (hphase : s.phase t = .testing o)
      (hready : m.ready o s.shared = false) :
      Steps m s (.run t) { s.move t (.asleep o) with lock := none }
  | acted (t : τ) (o : op) (hphase : s.phase t = .acting o) (after : Phase op ρ)
      (hafter : after = if m.notify o = .all then .notifying o (m.act o s.shared).2
        else .leaving o (m.act o s.shared).2) :
      Steps m s (.run t) { s.move t after with
        shared := (m.act o s.shared).1
        history := s.history ++ [(t, o, (m.act o s.shared).2)] }
  | notifiedAll (t : τ) (o : op) (r : ρ) (hphase : s.phase t = .notifying o r) :
      Steps m s (.run t) (s.wakeAll.move t (.leaving o r))
  | released (t : τ) (o : op) (r : ρ) (hphase : s.phase t = .leaving o r)
      (hnotify : m.notify o = .one) : Steps m s (.run t) { s.move t (.left o r) with lock := none }
  | finished (t : τ) (o : op) (r : ρ) (hphase : s.phase t = .leaving o r)
      (hnotify : m.notify o ≠ .one) : Steps m s (.run t) { s.finish t o r with lock := none }
  | notified (t u : τ) (o : op) (r : ρ) (hphase : s.phase t = .left o r)
      (hsleeper : (s.phase u).isAsleep = true) :
      Steps m s (.notify t (some u)) ((s.move u (s.phase u).wake).finish t o r)
  | notifiedNobody (t : τ) (o : op) (r : ρ) (hphase : s.phase t = .left o r)
      (hnone : ∀ u, (s.phase u).isAsleep = false) : Steps m s (.notify t none) (s.finish t o r)
  | woke (t : τ) (o : op) (hphase : s.phase t = .asleep o) :
      Steps m s (.spurious t) (s.move t (.woken o false))
  | expired (t : τ) (o : op) (hphase : s.phase t = .asleep o ∨ s.phase t = .woken o false)
      (htimed : m.timed o = true) : Steps m s (.expire t) (s.move t (.woken o true))

theorem runThread_steps {s s' : State τ σ op ρ} {t : τ} (h : m.runThread s t = some s') :
    Steps m s (.run t) s' := by
  unfold runThread at h
  split at h
  · next o hphase =>
    split at h
    · next hlock =>
      cases h
      exact .entered t o (Or.inl hphase) (Option.isNone_iff_eq_none.mp hlock)
    · cases h
  · next o expired hphase =>
    split at h
    · next hlock =>
      cases h
      cases expired with
      | true => exact .resumed t o hphase (Option.isNone_iff_eq_none.mp hlock)
      | false => exact .entered t o (Or.inr hphase) (Option.isNone_iff_eq_none.mp hlock)
    · cases h
  · next o hphase =>
    split at h
    · next hready =>
      cases h
      exact .passed t o hphase hready
    · next hready =>
      cases h
      exact .slept t o hphase (Bool.eq_false_iff.mpr hready)
  · next o hphase =>
    cases h
    exact .acted t o hphase _ rfl
  · next o r hphase =>
    cases h
    exact .notifiedAll t o r hphase
  · next o r hphase =>
    split at h
    · next hnotify =>
      cases h
      exact .released t o r hphase hnotify
    · next hnotify =>
      cases h
      exact .finished t o r hphase hnotify
  · cases h

theorem step_steps [Fintype τ] {s s' : State τ σ op ρ} {action : Action τ op}
    (h : m.step s action = some s') : Steps m s action s' := by
  cases action with
  | call t o =>
    simp only [step] at h
    split at h
    · next hphase =>
      cases h
      exact .called t o hphase
    · cases h
  | run t => exact runThread_steps h
  | notify t sleeper =>
    simp only [step] at h
    split at h
    · next o r hphase =>
      split at h
      · next u =>
        split at h
        · next hsleeper =>
          cases h
          exact .notified t u o r hphase hsleeper
        · cases h
      · split at h
        · next hnone =>
          cases h
          exact .notifiedNobody t o r hphase hnone
        · cases h
    · cases h
  | spurious t =>
    simp only [step] at h
    split at h
    · next o hphase =>
      cases h
      exact .woke t o hphase
    · cases h
  | expire t =>
    simp only [step] at h
    split at h
    · next o hphase =>
      split at h
      · next htimed =>
        cases h
        exact .expired t o (Or.inl hphase) htimed
      · cases h
    · next o hphase =>
      split at h
      · next htimed =>
        cases h
        exact .expired t o (Or.inr hphase) htimed
      · cases h
    · cases h

def eventsOf (t : τ) (history : List (τ × op × ρ)) : List (op × ρ) :=
  (history.filter fun event => event.1 = t).map Prod.snd

theorem eventsOf_append (t : τ) (first second : List (τ × op × ρ)) :
    eventsOf t (first ++ second) = eventsOf t first ++ eventsOf t second := by
  simp [eventsOf]

structure Sound (m : Monitor σ op ρ) (s : State τ σ op ρ) : Prop where
  locked : ∀ t, (s.phase t).inside = true ↔ s.lock = some t
  runs : m.Runs s.history s.shared
  acting : ∀ t o, s.phase t = .acting o → m.ready o s.shared = true ∨ m.timed o = true
  expired : ∀ t o, s.phase t = .woken o true → m.timed o = true
  ordered : ∀ t, eventsOf t s.history = s.returned t ++ (s.phase t).pending

theorem Sound.only {s : State τ σ op ρ} (h : Sound m s) {t u : τ}
    (ht : (s.phase t).inside = true) (hu : (s.phase u).inside = true) : u = t := by
  have hlock := (h.locked t).mp ht
  rw [(h.locked u).mp hu] at hlock
  exact Option.some.inj hlock

theorem Sound.move {s : State τ σ op ρ} (h : Sound m s) {t : τ} {phase : Phase op ρ}
    (hinside : phase.inside = (s.phase t).inside) (hpending : phase.pending = (s.phase t).pending)
    (hacting : ∀ o, phase = .acting o → m.ready o s.shared = true ∨ m.timed o = true)
    (hexpired : ∀ o, phase = .woken o true → m.timed o = true) : Sound m (s.move t phase) where
  locked u := by
    simp only [State.move, Function.update_apply]
    split
    · next hu => rw [hinside, hu, h.locked]
    · exact h.locked u
  runs := h.runs
  acting u o hphase := by
    simp only [State.move, Function.update_apply] at hphase
    split at hphase
    · exact hacting o hphase
    · exact h.acting u o hphase
  expired u o hphase := by
    simp only [State.move, Function.update_apply] at hphase
    split at hphase
    · exact hexpired o hphase
    · exact h.expired u o hphase
  ordered u := by
    simp only [State.move, Function.update_apply]
    split
    · next hu => rw [hpending, hu, h.ordered]
    · exact h.ordered u

theorem Sound.acquire {s : State τ σ op ρ} (h : Sound m s) {t : τ} {phase : Phase op ρ}
    (hlock : s.lock = none) (hinside : phase.inside = true)
    (hpending : phase.pending = (s.phase t).pending)
    (hacting : ∀ o, phase = .acting o → m.ready o s.shared = true ∨ m.timed o = true) :
    Sound m { s.move t phase with lock := some t } where
  locked u := by
    simp only [State.move, Function.update_apply]
    split
    · next hu => simp [hinside, hu]
    · next hu =>
      have houtside : ¬(s.phase u).inside = true := by simp [h.locked u, hlock]
      simp [houtside, Ne.symm hu]
  runs := h.runs
  acting u o hphase := by
    simp only [State.move, Function.update_apply] at hphase
    split at hphase
    · exact hacting o hphase
    · exact h.acting u o hphase
  expired u o hphase := by
    simp only [State.move, Function.update_apply] at hphase
    split at hphase
    · rw [hphase] at hinside
      cases hinside
    · exact h.expired u o hphase
  ordered u := by
    simp only [State.move, Function.update_apply]
    split
    · next hu => rw [hpending, hu, h.ordered]
    · exact h.ordered u

theorem Sound.release {s : State τ σ op ρ} (h : Sound m s) {t : τ} {phase : Phase op ρ}
    (hheld : (s.phase t).inside = true) (hinside : phase.inside = false)
    (hpending : phase.pending = (s.phase t).pending)
    (hexpired : ∀ o, phase ≠ .woken o true) :
    Sound m { s.move t phase with lock := none } where
  locked u := by
    simp only [State.move, Function.update_apply]
    split
    · simp [hinside]
    · next hu =>
      have houtside : ¬(s.phase u).inside = true := fun hin => hu (h.only hheld hin)
      simp [houtside]
  runs := h.runs
  acting u o hphase := by
    simp only [State.move, Function.update_apply] at hphase
    split at hphase
    · rw [hphase] at hinside
      cases hinside
    · exact h.acting u o hphase
  expired u o hphase := by
    simp only [State.move, Function.update_apply] at hphase
    split at hphase
    · exact absurd hphase (hexpired o)
    · exact h.expired u o hphase
  ordered u := by
    simp only [State.move, Function.update_apply]
    split
    · next hu => rw [hpending, hu, h.ordered]
    · exact h.ordered u

theorem Sound.finish {s : State τ σ op ρ} (h : Sound m s) {t : τ} {o : op} {r : ρ}
    (hphase : s.phase t = .left o r) : Sound m (s.finish t o r) where
  locked u := by
    simp only [State.finish, State.move, Function.update_apply]
    split
    · next hu =>
      have hlock := h.locked t
      rw [hphase] at hlock
      rw [hu]
      exact hlock
    · exact h.locked u
  runs := h.runs
  acting u o hacting := by
    simp only [State.finish, State.move, Function.update_apply] at hacting
    split at hacting
    · cases hacting
    · exact h.acting u o hacting
  expired u o hexpired := by
    simp only [State.finish, State.move, Function.update_apply] at hexpired
    split at hexpired
    · cases hexpired
    · exact h.expired u o hexpired
  ordered u := by
    simp only [State.finish, State.move, Function.update_apply]
    split
    · next hu =>
      have hordered := h.ordered t
      rw [hphase] at hordered
      rw [hu, hordered]
      exact (List.append_nil _).symm
    · exact h.ordered u

theorem Sound.wakeAll {s : State τ σ op ρ} (h : Sound m s) : Sound m s.wakeAll where
  locked u := by
    simp only [State.wakeAll, Phase.inside_wake]
    exact h.locked u
  runs := h.runs
  acting u o hacting := by
    apply h.acting u
    cases hu : s.phase u <;> simp only [State.wakeAll, hu] at hacting <;> cases hacting
    rfl
  expired u o hexpired := by
    apply h.expired u
    cases hu : s.phase u <;> simp only [State.wakeAll, hu] at hexpired <;> cases hexpired
    rfl
  ordered u := by
    simp only [State.wakeAll, Phase.pending_wake]
    exact h.ordered u

/-- The thread that acts is alone inside, so the value it changes is still the one on
which the wait ended. -/
theorem Sound.act {s : State τ σ op ρ} (h : Sound m s) {t : τ} {o : op} {after : Phase op ρ}
    (hphase : s.phase t = .acting o) (hinside : after.inside = true)
    (hpending : after.pending = [(o, (m.act o s.shared).2)])
    (hacting : ∀ o', after ≠ .acting o') :
    Sound m { s.move t after with
      shared := (m.act o s.shared).1
      history := s.history ++ [(t, o, (m.act o s.shared).2)] } where
  locked u := by
    have hlock := h.locked t
    rw [hphase] at hlock
    simp only [State.move, Function.update_apply]
    split
    · next hu =>
      rw [hu, hinside]
      exact hlock
    · exact h.locked u
  runs := h.runs.snoc t o (h.acting t o hphase)
  acting u o' hu := by
    simp only [State.move, Function.update_apply] at hu
    split at hu
    · exact absurd hu (hacting o')
    · next hne => exact absurd (h.only (t := t) (by rw [hphase]; rfl) (by rw [hu]; rfl)) hne
  expired u o' hu := by
    simp only [State.move, Function.update_apply] at hu
    split at hu
    · rw [hu] at hinside
      cases hinside
    · exact h.expired u o' hu
  ordered u := by
    simp only [State.move, Function.update_apply]
    rw [eventsOf_append, h.ordered u]
    split
    · next hu =>
      have hold : (s.phase u).pending = [] := by rw [hu, hphase]; rfl
      simp [hu ▸ hold, hu, hpending, eventsOf]
    · next hu => simp [eventsOf, Ne.symm hu]

theorem Sound.step {s s' : State τ σ op ρ} {action : Action τ op} (h : Sound m s)
    (hstep : Steps m s action s') : Sound m s' := by
  cases hstep with
  | called t o hphase =>
    apply h.move <;> simp [hphase, Phase.inside, Phase.pending]
  | entered t o hphase hlock =>
    refine h.acquire hlock rfl ?_ (fun _ hne => nomatch hne)
    obtain hphase | hphase := hphase <;> rw [hphase] <;> rfl
  | resumed t o hphase hlock =>
    refine h.acquire hlock rfl (by rw [hphase]; rfl) ?_
    intro o' ho
    cases ho
    exact Or.inr (h.expired t o hphase)
  | passed t o hphase hready =>
    refine h.move (by rw [hphase]; rfl) (by rw [hphase]; rfl) ?_ (fun _ hne => nomatch hne)
    intro o' ho
    cases ho
    exact Or.inl hready
  | slept t o hphase _ =>
    exact h.release (by rw [hphase]; rfl) rfl (by rw [hphase]; rfl) (fun _ hne => nomatch hne)
  | acted t o hphase after hafter =>
    subst hafter
    apply h.act hphase
    all_goals split <;> simp [Phase.inside, Phase.pending]
  | notifiedAll t o r hphase =>
    apply h.wakeAll.move <;>
      simp [State.wakeAll, hphase, Phase.wake, Phase.inside, Phase.pending]
  | released t o r hphase _ =>
    exact h.release (by rw [hphase]; rfl) rfl (by rw [hphase]; rfl) (fun _ hne => nomatch hne)
  | finished t o r hphase _ =>
    have hleft : Sound m { s.move t (.left o r) with lock := none } :=
      h.release (by rw [hphase]; rfl) rfl (by rw [hphase]; rfl) (fun _ hne => nomatch hne)
    have hfinish := hleft.finish (t := t) (o := o) (r := r) (by simp [State.move])
    simpa [State.finish, State.move] using hfinish
  | notified t u o r hphase hsleeper =>
    have hne : t ≠ u := by
      rintro rfl
      rw [hphase] at hsleeper
      cases hsleeper
    apply Sound.finish
    · cases hu : s.phase u with
      | asleep o' => apply h.move <;> simp [hu, Phase.wake, Phase.inside, Phase.pending]
      | _ => rw [hu] at hsleeper; cases hsleeper
    · simp [State.move, hne, hphase]
  | notifiedNobody t o r hphase _ => exact h.finish hphase
  | woke t o hphase =>
    apply h.move <;> simp [hphase, Phase.inside, Phase.pending]
  | expired t o hphase htimed =>
    obtain hphase | hphase := hphase
    all_goals apply h.move <;> simp [hphase, Phase.inside, Phase.pending, htimed]

theorem sound_init [Fintype τ] : Sound m (m.machine (τ := τ)).init where
  locked t := by simp [machine, Phase.inside]
  runs := .nil
  acting t o h := nomatch h
  expired t o h := nomatch h
  ordered t := rfl

theorem Steps.history {s s' : State τ σ op ρ} {action : Action τ op}
    (h : Steps m s action s') : s.history <+: s'.history := by
  cases h with
  | acted => exact List.prefix_append _ _
  | _ => exact List.prefix_refl _

theorem history_of_reaches [Fintype τ] {s s' : State τ σ op ρ} (h : m.machine.Reaches s s') :
    s.history <+: s'.history := by
  induction h with
  | refl => exact List.prefix_refl _
  | step action hstep _ ih => exact (step_steps hstep).history.trans ih

end

end Monitor

end SdvGateway.Library

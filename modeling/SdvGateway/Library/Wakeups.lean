import Mathlib.Algebra.BigOperators.Group.Finset.Piecewise
import Mathlib.Algebra.Order.BigOperators.Group.Finset
import SdvGateway.Library.Monitor

/-! When the value of a monitor holds items that threads wait for, no wakeup is lost, the
threads never block each other, and closing it sends them all home. -/
namespace SdvGateway.Library.Monitor

/-- A waiting operation is ready when there is an item or the value is closed. What adds an
item notifies one thread, and what closes the value notifies all. -/
structure Items (m : Monitor σ op ρ) where
  count : σ → Nat
  closed : σ → Bool
  waits : op → Bool
  ready_of_waits : ∀ o x, waits o = true → m.ready o x = (decide (0 < count x) || closed x)
  ready_of_not_waits : ∀ o x, waits o = false → m.ready o x = true
  notify_of_waits : ∀ o, waits o = true → m.notify o = .nobody
  count_of_waits : ∀ o x, waits o = true → count (m.act o x).1 ≤ count x - 1
  count_of_one : ∀ o x, m.notify o = .one → count (m.act o x).1 ≤ count x + 1
  count_of_not_one : ∀ o x, m.notify o ≠ .one → count (m.act o x).1 ≤ count x
  closed_act : ∀ o x, closed (m.act o x).1 = true → closed x = true ∨ m.notify o = .all
  stays_closed : ∀ o x, closed x = true → closed (m.act o x).1 = true

def State.total [Fintype τ] (s : State τ σ op ρ) (weight : Phase op ρ → Nat) : Nat :=
  ∑ t, weight (s.phase t)

theorem total_mono [Fintype τ] {s s' : State τ σ op ρ} {weight : Phase op ρ → Nat}
    (h : ∀ t, weight (s'.phase t) ≤ weight (s.phase t)) : s'.total weight ≤ s.total weight :=
  Finset.sum_le_sum fun t _ => h t

variable {τ σ op ρ : Type} [DecidableEq τ] [Fintype τ] {m : Monitor σ op ρ}

theorem total_move (s : State τ σ op ρ) (t : τ) (phase : Phase op ρ)
    (weight : Phase op ρ → Nat) :
    (s.move t phase).total weight + weight (s.phase t) = s.total weight + weight phase := by
  have hupdate : ∀ u, weight (Function.update s.phase t phase u) =
      Function.update (fun u => weight (s.phase u)) t (weight phase) u := by
    intro u
    by_cases hu : u = t
    · subst hu
      simp
    · simp [hu]
  simp only [State.total, State.move, hupdate]
  rw [Finset.sum_update_of_mem (Finset.mem_univ t),
    ← Finset.add_sum_erase _ _ (Finset.mem_univ t), Finset.sdiff_singleton_eq_erase]
  omega

def Items.credit (items : Items m) : Phase op ρ → Nat
  | .testing o | .acting o => if items.waits o then 1 else 0
  | .woken _ _ => 1
  | .leaving o _ | .left o _ => if m.notify o = .one then 1 else 0
  | _ => 0

/-- While a thread sleeps, every item has a thread that is on its way to it. -/
structure NoLostWakeup (items : Items m) (s : State τ σ op ρ) : Prop where
  waiting : ∀ t o, (s.phase t = .asleep o ∨ ∃ expired, s.phase t = .woken o expired) →
    items.waits o = true
  credits : ∀ t o, s.phase t = .asleep o → items.count s.shared ≤ s.total items.credit
  told : items.closed s.shared = true →
    (∀ t, (s.phase t).isAsleep = false) ∨ ∃ t o r, s.phase t = .notifying o r

theorem NoLostWakeup.move {items : Items m} {s s' : State τ σ op ρ} {t : τ} {phase : Phase op ρ}
    (h : NoLostWakeup items s) (hphase : s'.phase = Function.update s.phase t phase)
    (hshared : s'.shared = s.shared)
    (hwaiting : ∀ o, (phase = .asleep o ∨ ∃ expired, phase = .woken o expired) →
      items.waits o = true)
    (hcredits : ∀ u o, s'.phase u = .asleep o →
      items.count s.shared ≤ (s.move t phase).total items.credit)
    (hasleep : phase.isAsleep = true → items.closed s.shared = false)
    (hnotifying : ∀ o r, s.phase t ≠ .notifying o r) : NoLostWakeup items s' where
  waiting u o hu := by
    simp only [hphase, Function.update_apply] at hu
    split at hu
    · exact hwaiting o hu
    · exact h.waiting u o hu
  credits u o hu := by
    rw [hshared, State.total, hphase]
    exact hcredits u o hu
  told hclosed := by
    rw [hshared] at hclosed
    obtain hnone | ⟨u, o, r, hu⟩ := h.told hclosed
    · refine Or.inl fun u => ?_
      rw [hphase, Function.update_apply]
      split
      · rw [← Bool.not_eq_true]
        intro hsleeps
        rw [hasleep hsleeps] at hclosed
        cases hclosed
      · exact hnone u
    · refine Or.inr ⟨u, o, r, ?_⟩
      have hne : u ≠ t := by
        rintro rfl
        exact hnotifying o r hu
      rw [hphase, Function.update_of_ne hne, hu]

theorem NoLostWakeup.keep {items : Items m} {s s' : State τ σ op ρ} {t : τ}
    {phase : Phase op ρ} (h : NoLostWakeup items s)
    (hphase : s'.phase = Function.update s.phase t phase) (hshared : s'.shared = s.shared)
    (hwaiting : ∀ o, (∃ expired, phase = .woken o expired) → items.waits o = true)
    (hcredit : items.credit (s.phase t) ≤ items.credit phase) (hasleep : phase.isAsleep = false)
    (hnotifying : ∀ o r, s.phase t ≠ .notifying o r) : NoLostWakeup items s' := by
  apply h.move hphase hshared
  · rintro o (rfl | hwoken)
    · cases hasleep
    · exact hwaiting o hwoken
  · intro u o hu
    have htotal := total_move s t phase items.credit
    have hsleeps : s.phase u = .asleep o := by
      rw [hphase, Function.update_apply] at hu
      split at hu
      · rw [hu] at hasleep
        cases hasleep
      · exact hu
    have hcount := h.credits u o hsleeps
    omega
  · intro hsleeps
    rw [hasleep] at hsleeps
    cases hsleeps
  · exact hnotifying

theorem NoLostWakeup.slept {items : Items m} {s s' : State τ σ op ρ} {t : τ} {o : op}
    (h : NoLostWakeup items s) (hphase : s.phase t = .testing o)
    (hafter : s'.phase = Function.update s.phase t (.asleep o)) (hshared : s'.shared = s.shared)
    (hready : m.ready o s.shared = false) : NoLostWakeup items s' := by
  have hwaits : items.waits o = true := by
    rw [← Bool.not_eq_false]
    intro hnot
    rw [items.ready_of_not_waits o _ hnot] at hready
    cases hready
  have hempty : items.count s.shared = 0 ∧ items.closed s.shared = false := by
    rw [items.ready_of_waits o _ hwaits] at hready
    simpa using hready
  apply h.move hafter hshared
  · rintro o' (ho | ⟨expired, ho⟩) <;> cases ho
    exact hwaits
  · intro u o' _
    rw [hempty.1]
    exact Nat.zero_le _
  · exact fun _ => hempty.2
  · intro o' r hne
    rw [hphase] at hne
    cases hne

/-- Taking an item uses up the credit that its thread had, and adding one gives the thread
the credit of a notification. -/
theorem NoLostWakeup.acted {items : Items m} {s : State τ σ op ρ} {t : τ} {o : op}
    (h : NoLostWakeup items s) (hsound : Sound m s) (hphase : s.phase t = .acting o)
    {after : Phase op ρ}
    (hafter : after = if m.notify o = .all then .notifying o (m.act o s.shared).2
        else .leaving o (m.act o s.shared).2) (history : List (τ × op × ρ)) :
    NoLostWakeup items
      { s.move t after with shared := (m.act o s.shared).1, history := history } where
  waiting u o' hu := by
    simp only [State.move, Function.update_apply, hafter] at hu
    split at hu
    · split at hu <;> simp at hu
    · exact h.waiting u o' hu
  credits u o' hu := by
    change _ ≤ (s.move t after).total items.credit
    have htotal := total_move s t after items.credit
    have hsleeps : s.phase u = .asleep o' := by
      simp only [State.move, Function.update_apply, hafter] at hu
      split at hu
      · split at hu <;> cases hu
      · exact hu
    have hcount := h.credits u o' hsleeps
    change items.count (m.act o s.shared).1 ≤ _
    rw [hphase] at htotal
    by_cases hwaits : items.waits o = true
    · have hone : items.credit (Phase.acting o (ρ := ρ)) = 1 := by simp [Items.credit, hwaits]
      have hless := items.count_of_waits o s.shared hwaits
      omega
    · have hnone : items.credit (Phase.acting o (ρ := ρ)) = 0 := by simp [Items.credit, hwaits]
      by_cases hnotify : m.notify o = .one
      · have hone : items.credit after = 1 := by simp [hafter, hnotify, Items.credit]
        have hmore := items.count_of_one o s.shared hnotify
        omega
      · have hsame := items.count_of_not_one o s.shared hnotify
        omega
  told hclosed := by
    obtain hclosed | hall := items.closed_act o s.shared hclosed
    · obtain hnone | ⟨u, o', r, hu⟩ := h.told hclosed
      · refine Or.inl fun u => ?_
        simp only [State.move, Function.update_apply, hafter]
        split
        · split <;> rfl
        · exact hnone u
      · have hsame : u = t := hsound.only (by rw [hphase]; rfl) (by rw [hu]; rfl)
        rw [hsame, hphase] at hu
        cases hu
    · refine Or.inr ⟨t, o, (m.act o s.shared).2, ?_⟩
      simp [State.move, hafter, hall]

/-- A notification goes to a sleeper, which takes over the credit. -/
theorem NoLostWakeup.notified {items : Items m} {s : State τ σ op ρ} {t u : τ} {o : op} {r : ρ}
    (h : NoLostWakeup items s) (hphase : s.phase t = .left o r)
    (hsleeper : (s.phase u).isAsleep = true) :
    NoLostWakeup items ((s.move u (s.phase u).wake).finish t o r) := by
  cases hu : s.phase u with
  | asleep o' =>
    have hne : t ≠ u := by
      rintro rfl
      rw [hphase] at hu
      cases hu
    have hwoken : NoLostWakeup items (s.move u (.woken o' false)) := by
      refine h.keep rfl rfl ?_ ?_ ?_ ?_
      · rintro o'' ⟨expired, ho⟩
        cases ho
        exact h.waiting u o' (Or.inl hu)
      · simp [hu, Items.credit]
      · rfl
      · simp [hu]
    have hleft : (s.move u (.woken o' false)).phase t = .left o r := by
      simp [State.move, hne, hphase]
    refine hwoken.move rfl rfl ?_ ?_ ?_ ?_
    · rintro o'' (ho | ⟨expired, ho⟩) <;> cases ho
    · intro _ _ _
      have hcount := h.credits u o' hu
      have hfirst := total_move s u (.woken o' false) items.credit
      have hsecond := total_move (s.move u (.woken o' false)) t .idle items.credit
      have hgained : items.credit (s.phase u) = 0 := by simp [hu, Items.credit]
      have hone : items.credit (Phase.woken o' false (ρ := ρ)) = 1 := rfl
      have hspent : items.credit ((s.move u (.woken o' false)).phase t) ≤ 1 := by
        rw [hleft]
        simp only [Items.credit]
        split <;> omega
      change items.count s.shared ≤ _
      omega
    · intro hsleeps
      cases hsleeps
    · simp [hleft]
  | _ => rw [hu] at hsleeper; cases hsleeper

theorem NoLostWakeup.notifiedAll {items : Items m} {s : State τ σ op ρ} (h : NoLostWakeup items s)
    (t : τ) (o : op) (r : ρ) : NoLostWakeup items (s.wakeAll.move t (.leaving o r)) := by
  have hawake : ∀ u, ((s.wakeAll.move t (.leaving o r)).phase u).isAsleep = false := by
    intro u
    simp only [State.move, Function.update_apply]
    split
    · rfl
    · exact Phase.isAsleep_wake _
  refine ⟨?_, ?_, fun _ => Or.inl hawake⟩
  · intro u o' hu
    simp only [State.move, State.wakeAll, Function.update_apply] at hu
    split at hu
    · simp at hu
    · cases hold : s.phase u with
      | asleep o'' =>
        obtain rfl : o'' = o' := by simpa [hold, Phase.wake] using hu
        exact h.waiting u _ (Or.inl hold)
      | woken o'' expired =>
        obtain rfl : o'' = o' := by simpa [hold, Phase.wake] using hu
        exact h.waiting u _ (Or.inr ⟨expired, hold⟩)
      | _ => simp [hold, Phase.wake] at hu
  · intro u o' hu
    have hsleeps := hawake u
    rw [hu] at hsleeps
    cases hsleeps

theorem NoLostWakeup.step {items : Items m} {s s' : State τ σ op ρ} {action : Action τ op}
    (h : NoLostWakeup items s) (hsound : Sound m s) (hstep : Steps m s action s') :
    NoLostWakeup items s' := by
  cases hstep with
  | called t o hphase =>
    refine h.keep rfl rfl ?_ ?_ ?_ ?_ <;> simp [hphase, Items.credit, Phase.isAsleep]
  | entered t o hphase _ =>
    have hwaits : items.credit (s.phase t) ≤ items.credit (Phase.testing o (ρ := ρ)) := by
      obtain hphase | hphase := hphase
      · simp [hphase, Items.credit]
      · simp [hphase, Items.credit, h.waiting t o (Or.inr ⟨_, hphase⟩)]
    refine h.keep rfl rfl ?_ hwaits rfl ?_
    · simp
    · obtain hphase | hphase := hphase <;> simp [hphase]
  | resumed t o hphase _ =>
    have hwaits := h.waiting t o (Or.inr ⟨_, hphase⟩)
    refine h.keep rfl rfl ?_ ?_ ?_ ?_ <;> simp [hphase, Items.credit, Phase.isAsleep, hwaits]
  | passed t o hphase _ =>
    refine h.keep rfl rfl ?_ ?_ ?_ ?_ <;> simp [hphase, Items.credit, Phase.isAsleep]
  | slept t o hphase hready => exact h.slept hphase rfl rfl hready
  | acted t o hphase after hafter => exact h.acted hsound hphase hafter _
  | notifiedAll t o r hphase => exact h.notifiedAll t o r
  | released t o r hphase hnotify =>
    refine h.keep rfl rfl ?_ ?_ ?_ ?_ <;> simp [hphase, Items.credit, Phase.isAsleep]
  | finished t o r hphase hnotify =>
    refine h.keep rfl rfl ?_ ?_ ?_ ?_ <;> simp [hphase, Items.credit, Phase.isAsleep, hnotify]
  | notified t u o r hphase hsleeper => exact h.notified hphase hsleeper
  | notifiedNobody t o r hphase hnone =>
    refine h.move rfl rfl ?_ ?_ ?_ ?_
    · simp
    · intro u o' hu
      have hawake := hnone u
      simp only [State.finish, State.move, Function.update_apply] at hu
      split at hu
      · cases hu
      · rw [hu] at hawake
        cases hawake
    · simp [Phase.isAsleep]
    · simp [hphase]
  | woke t o hphase =>
    have hwaits := h.waiting t o (Or.inl hphase)
    refine h.keep rfl rfl ?_ ?_ ?_ ?_ <;> simp [hphase, Items.credit, Phase.isAsleep, hwaits]
  | expired t o hphase _ =>
    have hwaits : items.waits o = true := by
      obtain hphase | hphase := hphase
      · exact h.waiting t o (Or.inl hphase)
      · exact h.waiting t o (Or.inr ⟨_, hphase⟩)
    obtain hphase | hphase := hphase
    all_goals refine h.keep rfl rfl ?_ ?_ ?_ ?_ <;>
      simp [hphase, Items.credit, Phase.isAsleep, hwaits]

theorem noLostWakeup_init (items : Items m) :
    NoLostWakeup items (m.machine (τ := τ)).init where
  waiting t o h := by simp [machine] at h
  credits t o h := nomatch h
  told _ := Or.inl fun _ => rfl

def Phase.atRest : Phase op ρ → Bool
  | .idle | .asleep _ => true
  | _ => false

omit [DecidableEq τ] in
theorem NoLostWakeup.nothing_left {items : Items m} {s : State τ σ op ρ}
    (h : NoLostWakeup items s) (hrest : ∀ t, (s.phase t).atRest = true) {t : τ}
    (hsleeps : (s.phase t).isAsleep = true) :
    items.count s.shared = 0 ∧ items.closed s.shared = false := by
  refine ⟨?_, ?_⟩
  · have hno : s.total items.credit = 0 := by
      apply Finset.sum_eq_zero
      intro u _
      have hu := hrest u
      cases hphase : s.phase u <;> simp_all [Phase.atRest, Items.credit]
    cases hphase : s.phase t with
    | asleep o =>
      have hcount := h.credits t o hphase
      omega
    | _ => rw [hphase] at hsleeps; cases hsleeps
  · rw [← Bool.not_eq_true]
    intro hclosed
    obtain hnone | ⟨u, o, r, hu⟩ := h.told hclosed
    · rw [hnone t] at hsleeps
      cases hsleeps
    · have hrests := hrest u
      rw [hu] at hrests
      cases hrests

/-- The lock is free or its holder can go on, so some thread that does not rest can move. -/
theorem Sound.progress {s : State τ σ op ρ} (h : Sound m s)
    (hbusy : ∃ t, (s.phase t).atRest = false) :
    ∃ t, (m.step s (.run t)).isSome ∨ ∃ sleeper, (m.step s (.notify t sleeper)).isSome := by
  cases hlock : s.lock with
  | some t =>
    have hinside := (h.locked t).mpr hlock
    refine ⟨t, Or.inl ?_⟩
    cases hphase : s.phase t <;> rw [hphase] at hinside <;> try cases hinside
    all_goals simp only [Monitor.step, Monitor.runThread, hphase]
    all_goals (try split) <;> rfl
  | none =>
    obtain ⟨t, ht⟩ := hbusy
    have houtside : ¬(s.phase t).inside = true := by simp [h.locked t, hlock]
    refine ⟨t, ?_⟩
    cases hphase : s.phase t with
    | entering | woken => exact Or.inl (by simp [Monitor.step, Monitor.runThread, hphase, hlock])
    | left o r =>
      refine Or.inr ?_
      by_cases hsleeper : ∃ u, (s.phase u).isAsleep = true
      · obtain ⟨u, hu⟩ := hsleeper
        exact ⟨some u, by simp [Monitor.step, hphase, hu]⟩
      · have hnone : ∀ u, (s.phase u).isAsleep = false := by simpa using hsleeper
        exact ⟨none, by simp [Monitor.step, hphase, hnone]⟩
    | idle | asleep => rw [hphase] at ht; cases ht
    | _ => simp [hphase, Phase.inside] at houtside

def Phase.remaining : Phase op ρ → Nat
  | .idle => 0
  | .left _ _ => 1
  | .leaving _ _ => 2
  | .notifying _ _ => 3
  | .acting _ => 4
  | .testing _ | .woken _ true => 5
  | .entering _ | .woken _ false => 6
  | .asleep _ => 7

theorem remaining_le (phase : Phase op ρ) : phase.remaining ≤ 7 := by
  cases phase with
  | woken o expired => cases expired <;> simp [Phase.remaining]
  | _ => simp [Phase.remaining]

theorem remaining_wake (phase : Phase op ρ) : phase.wake.remaining ≤ phase.remaining := by
  cases phase <;> simp [Phase.wake, Phase.remaining]

theorem remaining_move {s : State τ σ op ρ} {t : τ} {phase : Phase op ρ}
    (h : phase.remaining < (s.phase t).remaining) :
    (s.move t phase).total Phase.remaining < s.total Phase.remaining := by
  have htotal := total_move s t phase Phase.remaining
  omega

theorem Items.step_remaining (items : Items m) {s s' : State τ σ op ρ} {action : Action τ op}
    (hclosed : items.closed s.shared = true) (hstep : Steps m s action s')
    (hcall : ∀ t o, action ≠ .call t o) :
    s'.total Phase.remaining < s.total Phase.remaining ∧ items.closed s'.shared = true := by
  cases hstep with
  | called t o _ => exact absurd rfl (hcall t o)
  | entered t o hphase _ =>
    refine ⟨remaining_move ?_, hclosed⟩
    obtain hphase | hphase := hphase <;> simp [hphase, Phase.remaining]
  | resumed t o hphase _ => exact ⟨remaining_move (by simp [hphase, Phase.remaining]), hclosed⟩
  | passed t o hphase _ => exact ⟨remaining_move (by simp [hphase, Phase.remaining]), hclosed⟩
  | slept t o _ hready =>
    have hpasses : m.ready o s.shared = true := by
      cases hwaits : items.waits o with
      | true => rw [items.ready_of_waits o _ hwaits, hclosed, Bool.or_true]
      | false => exact items.ready_of_not_waits o _ hwaits
    rw [hpasses] at hready
    cases hready
  | acted t o hphase after hafter =>
    refine ⟨remaining_move ?_, items.stays_closed o _ hclosed⟩
    rw [hphase, hafter]
    split <;> simp [Phase.remaining]
  | notifiedAll t o r hphase =>
    refine ⟨?_, hclosed⟩
    have hwake : s.wakeAll.total Phase.remaining ≤ s.total Phase.remaining :=
      total_mono fun u => remaining_wake (s.phase u)
    apply Nat.lt_of_lt_of_le _ hwake
    exact remaining_move (by simp [State.wakeAll, hphase, Phase.wake, Phase.remaining])
  | released t o r hphase _ => exact ⟨remaining_move (by simp [hphase, Phase.remaining]), hclosed⟩
  | finished t o r hphase _ =>
    refine ⟨?_, hclosed⟩
    change (s.move t .idle).total Phase.remaining < _
    exact remaining_move (by simp [hphase, Phase.remaining])
  | notified t u o r hphase hsleeper =>
    refine ⟨?_, hclosed⟩
    have hne : t ≠ u := by
      rintro rfl
      rw [hphase] at hsleeper
      cases hsleeper
    have hwake := total_move s u (s.phase u).wake Phase.remaining
    have hless := remaining_wake (s.phase u)
    have hfinish : ((s.move u (s.phase u).wake).move t .idle).total Phase.remaining <
        (s.move u (s.phase u).wake).total Phase.remaining := by
      apply remaining_move
      simp [State.move, hne, hphase, Phase.remaining]
    change ((s.move u (s.phase u).wake).move t .idle).total Phase.remaining < _
    omega
  | notifiedNobody t o r hphase _ =>
    refine ⟨?_, hclosed⟩
    change (s.move t .idle).total Phase.remaining < _
    exact remaining_move (by simp [hphase, Phase.remaining])
  | woke t o hphase => exact ⟨remaining_move (by simp [hphase, Phase.remaining]), hclosed⟩
  | expired t o hphase _ =>
    refine ⟨remaining_move ?_, hclosed⟩
    obtain hphase | hphase := hphase <;> simp [hphase, Phase.remaining]

theorem Items.closed_run (items : Items m) {s s' : State τ σ op ρ} {actions : List (Action τ op)}
    (hclosed : items.closed s.shared = true) (hcall : ∀ action ∈ actions, ∀ t o,
      action ≠ .call t o) (hrun : actions.foldlM m.step s = some s') :
    actions.length + s'.total Phase.remaining ≤ s.total Phase.remaining ∧
      items.closed s'.shared = true := by
  induction actions generalizing s with
  | nil =>
    cases hrun
    simp [hclosed]
  | cons action rest ih =>
    rw [List.foldlM_cons] at hrun
    obtain ⟨middle, hstep, hrest⟩ := Option.bind_eq_some_iff.mp hrun
    obtain ⟨hless, hstill⟩ := items.step_remaining hclosed (step_steps hstep)
      (hcall action List.mem_cons_self)
    obtain ⟨hafter, hend⟩ := ih hstill (fun a ha => hcall a (List.mem_cons_of_mem _ ha)) hrest
    refine ⟨?_, hend⟩
    rw [List.length_cons]
    omega

omit [DecidableEq τ] in
theorem total_remaining_le (s : State τ σ op ρ) :
    s.total Phase.remaining ≤ 7 * Fintype.card τ := by
  have hbound := Finset.sum_le_sum fun t (_ : t ∈ Finset.univ) => remaining_le (s.phase t)
  rw [Finset.sum_const_nat fun _ _ => rfl, Finset.card_univ, Nat.mul_comm] at hbound
  exact hbound

end SdvGateway.Library.Monitor

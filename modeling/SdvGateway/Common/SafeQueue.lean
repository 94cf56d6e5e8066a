import SdvGateway.Common.Text
import SdvGateway.Library.Channel
import SdvGateway.Library.Wakeups

/-! The queue between the threads of the gateway. Its calls happen one after another, no
push is slept through, and a shutdown lets every call return. -/
namespace SdvGateway.Common
open Library Monitor

structure SafeQueue (α : Type) where
  queue : List α
  shutdown : Bool

namespace SafeQueue

inductive Call (α : Type) where
  | push (item : α)
  | pop
  | tryPop
  | popFor
  | shutdown
  | size

inductive Answer (α : Type) where
  | done
  | value (item : α)
  | nullopt
  | threw (what : Str)
  | size (n : Nat)

def take (ifEmpty : Answer α) (s : SafeQueue α) : SafeQueue α × Answer α :=
  match s.queue with
  | [] => (s, ifEmpty)
  | item :: rest => ({ s with queue := rest }, .value item)

/-- `wait_for` ends with the test of its predicate, so a `pop_for` that is out of time
still takes an item if there is one. -/
def act : Call α → SafeQueue α → SafeQueue α × Answer α
  | .push item, s => ({ s with queue := s.queue ++ [item] }, .done)
  | .pop, s => take (.threw (lit "SafeQueue: shutdown")) s
  | .tryPop, s | .popFor, s => take .nullopt s
  | .shutdown, s => ({ s with shutdown := true }, .done)
  | .size, s => (s, .size s.queue.length)

def waits : Call α → Bool
  | .pop | .popFor => true
  | _ => false

def monitor (α : Type) : Monitor (SafeQueue α) (Call α) (Answer α) where
  init := ⟨[], false⟩
  ready call s := !waits call || !s.queue.isEmpty || s.shutdown
  timed
    | .popFor => true
    | _ => false
  act := act
  notify
    | .push _ => .one
    | .shutdown => .all
    | _ => .nobody

def pushes (history : List (τ × Call α × Answer α)) : List α :=
  history.filterMap fun
    | (_, .push item, _) => some item
    | _ => none

def takes (history : List (τ × Call α × Answer α)) : List α :=
  history.filterMap fun
    | (_, _, .value item) => some item
    | _ => none

theorem pushes_append (first second : List (τ × Call α × Answer α)) :
    pushes (first ++ second) = pushes first ++ pushes second := List.filterMap_append

theorem takes_append (first second : List (τ × Call α × Answer α)) :
    takes (first ++ second) = takes first ++ takes second := List.filterMap_append

private theorem queue_take (ifEmpty : Answer α) (s : SafeQueue α)
    (hempty : ∀ item, ifEmpty ≠ .value item) (t : τ) (call : Call α) :
    takes [(t, call, (take ifEmpty s).2)] ++ (take ifEmpty s).1.queue = s.queue := by
  unfold take
  split
  · next hqueue =>
    cases ifEmpty <;> simp [takes, hqueue] at hempty ⊢
  · next hqueue => simp [takes, hqueue]

private theorem queue_act (call : Call α) (s : SafeQueue α) (t : τ) :
    takes [(t, call, (act call s).2)] ++ (act call s).1.queue =
      s.queue ++ pushes [(t, call, (act call s).2)] := by
  cases call with
  | push item => simp [act, takes, pushes]
  | pop | tryPop | popFor =>
    rw [act, queue_take _ _ (by simp)]
    simp [pushes]
  | shutdown | size => simp [act, takes, pushes]

theorem conserved {history : List (τ × Call α × Answer α)} {s : SafeQueue α}
    (h : (monitor α).Runs history s) : pushes history = takes history ++ s.queue := by
  induction h with
  | nil => rfl
  | @snoc history s _ t call _ ih =>
    change pushes (history ++ [(t, call, (act call s).2)]) =
      takes (history ++ [(t, call, (act call s).2)]) ++ (act call s).1.queue
    rw [pushes_append, takes_append, List.append_assoc, queue_act, ih, List.append_assoc]

def channel {history : List (τ × Call α × Answer α)} {s : SafeQueue α}
    (h : (monitor α).Runs history s) : Channel α :=
  ⟨pushes history, takes history, s.queue, conserved h⟩

/-- Under any schedule the calls happen one after another: each thread has got the answers
of its own calls, a call that has returned stays where it is, and the items come out in the
order in which they went in. -/
theorem calls_in_order [DecidableEq τ] [Fintype τ] (α : Type)
    (actions : List (Action τ (Call α))) :
    (monitor α).machine.Always (fun s =>
      (∀ t u, (s.phase t).inside = true → (s.phase u).inside = true → t = u) ∧
      (monitor α).Runs s.history s.shared ∧
      (∃ channel : Channel α, channel.pushed = pushes s.history ∧
        channel.popped = takes s.history ∧ channel.queue = s.shared.queue) ∧
      (∀ t, eventsOf t s.history = s.returned t ++ (s.phase t).pending) ∧
      ∀ s', (monitor α).machine.Reaches s s' → s.history <+: s'.history)
      (monitor α).machine.init actions := by
  apply Machine.always_of_invariant (I := Sound (monitor α))
  · exact fun s action s' hstep hs => hs.step (step_steps hstep)
  · intro s hs
    refine ⟨fun t u ht hu => hs.only hu ht, hs.runs, ?_, hs.ordered, ?_⟩
    · exact ⟨channel hs.runs, rfl, rfl, rfl⟩
    · exact fun s' hreach => history_of_reaches hreach
  · exact sound_init

private theorem length_take (ifEmpty : Answer α) (s : SafeQueue α) :
    (take ifEmpty s).1.queue.length = s.queue.length - 1 := by
  unfold take
  split <;> simp [*]

@[simp] theorem shutdown_take (ifEmpty : Answer α) (s : SafeQueue α) :
    (take ifEmpty s).1.shutdown = s.shutdown := by
  unfold take
  split <;> rfl

def items (α : Type) : Items (monitor α) where
  count s := s.queue.length
  closed s := s.shutdown
  waits := waits
  ready_of_waits call s hwaits := by
    cases hqueue : s.queue <;> simp [monitor, hwaits, hqueue]
  ready_of_not_waits call s hwaits := by simp [monitor, hwaits]
  notify_of_waits call hwaits := by
    cases call with
    | pop | popFor => rfl
    | _ => cases hwaits
  count_of_waits call s hwaits := by
    cases call with
    | pop | popFor => exact Nat.le_of_eq (length_take _ s)
    | _ => cases hwaits
  count_of_one call s hnotify := by
    cases call with
    | push item => simp [monitor, act]
    | _ => cases hnotify
  count_of_not_one call s hnotify := by
    cases call with
    | push item => exact absurd rfl hnotify
    | pop | tryPop | popFor =>
      change (take _ s).1.queue.length ≤ _
      rw [length_take]
      exact Nat.sub_le _ _
    | shutdown | size => exact Nat.le_refl _
  closed_act call s hclosed := by
    cases call with
    | shutdown => exact Or.inr rfl
    | _ => exact Or.inl (by simpa [monitor, act] using hclosed)
  stays_closed call s hclosed := by
    cases call <;> simp [monitor, act, hclosed]

def Resting (s : State τ (SafeQueue α) (Call α) (Answer α)) : Prop :=
  ∀ t, (s.phase t).atRest = true

/-- Some thread can go on without a call, a timeout or a spurious wakeup. -/
def CanMove [DecidableEq τ] [Fintype τ] (s : State τ (SafeQueue α) (Call α) (Answer α)) : Prop :=
  ∃ t, ((monitor α).step s (.run t)).isSome ∨
    ∃ sleeper, ((monitor α).step s (.notify t sleeper)).isSome

theorem rests_or_moves [DecidableEq τ] [Fintype τ]
    {s : State τ (SafeQueue α) (Call α) (Answer α)} (h : Sound (monitor α) s) :
    Resting s ∨ CanMove s := by
  by_cases hrest : ∃ t, (s.phase t).atRest = false
  · exact Or.inr (h.progress hrest)
  · exact Or.inl (by simpa [Resting] using hrest)

structure Live [DecidableEq τ] [Fintype τ] (s : State τ (SafeQueue α) (Call α) (Answer α)) :
    Prop where
  sound : Sound (monitor α) s
  awake : NoLostWakeup (items α) s

theorem Live.step [DecidableEq τ] [Fintype τ]
    {s s' : State τ (SafeQueue α) (Call α) (Answer α)} {action : Action τ (Call α)}
    (h : Live s) (hstep : (monitor α).step s action = some s') : Live s' :=
  ⟨h.sound.step (step_steps hstep), h.awake.step h.sound (step_steps hstep)⟩

theorem live_init [DecidableEq τ] [Fintype τ] : Live ((monitor α).machine (τ := τ)).init :=
  ⟨sound_init, noLostWakeup_init _⟩

/-- Whatever the threads do, one of them can go on, or all of them rest; and when they all
rest, no thread sleeps beside an item or after a shutdown. -/
theorem no_push_slept_through [DecidableEq τ] [Fintype τ] (α : Type)
    (actions : List (Action τ (Call α))) :
    (monitor α).machine.Always (fun s =>
      (Resting s ∨ CanMove s) ∧
      (Resting s → (∃ t, (s.phase t).isAsleep = true) →
        s.shared.queue = [] ∧ s.shared.shutdown = false))
      (monitor α).machine.init actions := by
  apply Machine.always_of_invariant (I := Live)
  · exact fun s action s' hstep hs => hs.step hstep
  · intro s hs
    refine ⟨rests_or_moves hs.sound, ?_⟩
    rintro hrest ⟨t, hsleeps⟩
    obtain ⟨hcount, hclosed⟩ := hs.awake.nothing_left hrest hsleeps
    exact ⟨List.length_eq_zero_iff.mp hcount, hclosed⟩
  · exact live_init

theorem Live.foldlM [DecidableEq τ] [Fintype τ]
    {s s' : State τ (SafeQueue α) (Call α) (Answer α)} {actions : List (Action τ (Call α))}
    (h : Live s) (hrun : actions.foldlM (monitor α).step s = some s') : Live s' := by
  induction actions generalizing s with
  | nil =>
    cases hrun
    exact h
  | cons action rest ih =>
    rw [List.foldlM_cons] at hrun
    obtain ⟨middle, hstep, hrest⟩ := Option.bind_eq_some_iff.mp hrun
    exact ih (h.step hstep) hrest

/-- After a shutdown no thread sleeps for long: without a new call the threads take at most
seven steps each, and when none can go on all calls have returned. -/
theorem shutdown_ends_calls [DecidableEq τ] [Fintype τ] (α : Type)
    (actions : List (Action τ (Call α))) :
    (monitor α).machine.Always (fun s => s.shared.shutdown = true →
      ∀ (later : List (Action τ (Call α))) s', (∀ action ∈ later, ∀ t call, action ≠ .call t call) →
        later.foldlM (monitor α).step s = some s' →
        later.length ≤ 7 * Fintype.card τ ∧ ((∀ t, s'.phase t = .idle) ∨ CanMove s'))
      (monitor α).machine.init actions := by
  apply Machine.always_of_invariant (I := Live)
  · exact fun s action s' hstep hs => hs.step hstep
  · intro s hs hshutdown later s' hcall hrun
    obtain ⟨hsteps, hstill⟩ := (items α).closed_run hshutdown hcall hrun
    have hbound := total_remaining_le s
    refine ⟨by omega, ?_⟩
    have hs' := hs.foldlM hrun
    obtain hrest | hmoves := rests_or_moves hs'.sound
    · refine Or.inl fun t => ?_
      have ht := hrest t
      cases hphase : s'.phase t with
      | idle => rfl
      | asleep call =>
        have hsleeps : (s'.phase t).isAsleep = true := by rw [hphase]; rfl
        obtain ⟨-, hclosed⟩ := hs'.awake.nothing_left hrest hsleeps
        change s'.shared.shutdown = false at hclosed
        rw [show s'.shared.shutdown = true from hstill] at hclosed
        cases hclosed
      | _ => rw [hphase] at ht; cases ht
    · exact Or.inr hmoves
  · exact live_init

end SafeQueue

end SdvGateway.Common

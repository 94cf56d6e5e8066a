import Mathlib.Algebra.Order.BigOperators.Group.Finset
import SdvGateway.CanLayer.FrameIdentity
import SdvGateway.Gateway.Startup

/-! The decode loop and its two consumers. Every decoded signal goes into both
queues, which have no capacity, and a gateway without an anomaly model still
runs the loop. -/
namespace SdvGateway.Gateway.Fanout
open Common Library CanLayer SignalDecoder Startup

inductive Push where
  | telemetry (sig : DecodedSignal)
  | anomaly (sig : DecodedSignal)

def Push.isAnomaly : Push → Bool
  | .telemetry _ => false
  | .anomaly _ => true

/-- `detectorStarts` is what `AnomalyDetector::start` returns, `frames` the stream
that the decode loop pops and `clock` the time at which each one is decoded. -/
structure Env where
  fpu : Fpu
  clock : Nat → Str → Int
  signals : SignalTable
  frames : Nat → CanFrame
  detectorStarts : Bool

def decodedAt (env : Env) (n : Nat) : List DecodedSignal :=
  decode env.fpu (env.clock n) env.signals (env.frames n)

/-- `decoded` counts the frames that the loop has popped; `pushes` is what is left
to push for the last one. -/
structure State where
  main : MainStep
  decoded : Nat
  pushes : List Push
  telemetryQ : List DecodedSignal
  anomalyQ : List DecodedSignal

inductive Action where
  | main (ok : Bool)
  | decode
  | push
  | popTelemetry
  | popAnomaly
  | timeout

def fanOut (values : List DecodedSignal) : List Push :=
  values.flatMap fun sig => [.telemetry sig, .anomaly sig]

def stepMain (env : Env) (s : State) (ok : Bool) : Option State :=
  let ok := if s.main = .startAnomaly then env.detectorStarts else ok
  if ok then some { s with main := s.main.next }
  else s.main.failed.map fun main => { s with main }

def stepDecode (env : Env) (s : State) : Option State :=
  match s.main, s.pushes with
  | .decodeLoop, [] =>
    some { s with decoded := s.decoded + 1, pushes := fanOut (decodedAt env s.decoded) }
  | _, _ => none

def stepPush (s : State) : Option State :=
  match s.pushes with
  | [] => none
  | .telemetry sig :: rest =>
    some { s with pushes := rest, telemetryQ := s.telemetryQ ++ [sig] }
  | .anomaly sig :: rest => some { s with pushes := rest, anomalyQ := s.anomalyQ ++ [sig] }

def stepTelemetry (s : State) : Option State :=
  match s.telemetryQ with
  | [] => none
  | _ :: rest => some { s with telemetryQ := rest }

/-- Without a model there is no thread that pops. -/
def stepAnomaly (env : Env) (s : State) : Option State :=
  match s.anomalyQ with
  | [] => none
  | _ :: rest => if env.detectorStarts then some { s with anomalyQ := rest } else none

theorem stepAnomaly_none {env : Env} (h : env.detectorStarts = false) (s : State) :
    stepAnomaly env s = none := by
  unfold stepAnomaly
  split
  · rfl
  · simp [h]

def machine (env : Env) : Machine State Action where
  init := ⟨.connect, 0, [], [], []⟩
  step s action :=
    match action with
    | .main ok => stepMain env s ok
    | .decode => stepDecode env s
    | .push => stepPush s
    | .popTelemetry => stepTelemetry s
    | .popAnomaly => stepAnomaly env s
    | .timeout => some s

inductive Steps (env : Env) (s : State) : State → Prop
  | started (main : MainStep) : Steps env s { s with main }
  | decoded (hpushes : s.pushes = []) :
      Steps env s { s with decoded := s.decoded + 1, pushes := fanOut (decodedAt env s.decoded) }
  | pushedTelemetry (sig : DecodedSignal) (rest : List Push)
      (hpushes : s.pushes = .telemetry sig :: rest) :
      Steps env s { s with pushes := rest, telemetryQ := s.telemetryQ ++ [sig] }
  | pushedAnomaly (sig : DecodedSignal) (rest : List Push)
      (hpushes : s.pushes = .anomaly sig :: rest) :
      Steps env s { s with pushes := rest, anomalyQ := s.anomalyQ ++ [sig] }
  | poppedTelemetry (rest : List DecodedSignal) : Steps env s { s with telemetryQ := rest }
  | poppedAnomaly (rest : List DecodedSignal) (hstarted : env.detectorStarts = true) :
      Steps env s { s with anomalyQ := rest }
  | timedOut : Steps env s s

private theorem stepMain_steps {env : Env} {s s' : State} {ok : Bool}
    (h : stepMain env s ok = some s') : Steps env s s' := by
  unfold stepMain at h
  generalize (if s.main = .startAnomaly then env.detectorStarts else ok) = ok at h
  cases ok with
  | true =>
    cases h
    exact .started _
  | false =>
    obtain ⟨next, _, rfl⟩ := Option.map_eq_some_iff.mp h
    exact .started next

private theorem stepPush_steps {env : Env} {s s' : State} (h : stepPush s = some s') :
    Steps env s s' := by
  unfold stepPush at h
  split at h
  · contradiction
  · next sig rest hpushes =>
    cases h
    exact .pushedTelemetry sig rest hpushes
  · next sig rest hpushes =>
    cases h
    exact .pushedAnomaly sig rest hpushes

theorem step_steps {env : Env} {s s' : State} {action : Action}
    (h : (machine env).step s action = some s') : Steps env s s' := by
  cases action with
  | main ok => exact stepMain_steps h
  | decode =>
    simp only [machine, stepDecode] at h
    split at h
    · next hpushes =>
      cases h
      exact .decoded hpushes
    · contradiction
  | push => exact stepPush_steps h
  | popTelemetry =>
    simp only [machine, stepTelemetry] at h
    split at h
    · contradiction
    · next sig rest hqueue =>
      cases h
      exact .poppedTelemetry rest
  | popAnomaly =>
    cases hstarted : env.detectorStarts with
    | false => simp [machine, stepAnomaly_none hstarted] at h
    | true =>
      simp only [machine, stepAnomaly, hstarted, if_true] at h
      split at h
      · contradiction
      · next sig rest hqueue =>
        cases h
        exact .poppedAnomaly rest hstarted
  | timeout =>
    cases h
    exact .timedOut

/-- Every consumer that was started has popped all there was for it. -/
def CaughtUp (env : Env) (s : State) : Prop :=
  s.telemetryQ = [] ∧ (env.detectorStarts = true → s.anomalyQ = [])

/-- The queues stay below a bound at the moments at which the consumers have
caught up. -/
def Bounded (env : Env) (schedule : Nat → Action) : Prop :=
  ∃ bound, ∀ n, CaughtUp env ((machine env).stateAt schedule n) →
    ((machine env).stateAt schedule n).telemetryQ.length ≤ bound ∧
      ((machine env).stateAt schedule n).anomalyQ.length ≤ bound

def arrivals (env : Env) (n : Nat) : Nat := ∑ i ∈ Finset.range n, (decodedAt env i).length

/-- With no one to pop, what was decoded is in the queue or about to be pushed,
and at most the last frame is not pushed entirely. -/
structure Unpopped (env : Env) (s : State) : Prop where
  counted : s.anomalyQ.length + s.pushes.countP Push.isAnomaly = arrivals env s.decoded
  earlier : arrivals env (s.decoded - 1) ≤ s.anomalyQ.length

private theorem countP_fanOut (values : List DecodedSignal) :
    (fanOut values).countP Push.isAnomaly = values.length := by
  induction values with
  | nil => rfl
  | cons sig rest ih =>
    change (Push.telemetry sig :: Push.anomaly sig :: fanOut rest).countP Push.isAnomaly = _
    rw [List.countP_cons_of_neg (by simp [Push.isAnomaly]), List.countP_cons_of_pos rfl, ih,
      List.length_cons]

theorem arrivals_mono (env : Env) {m n : Nat} (h : m ≤ n) : arrivals env m ≤ arrivals env n :=
  Finset.sum_le_sum_of_subset (Finset.range_mono h)

theorem unpopped_step {env : Env} (hnone : env.detectorStarts = false) {s s' : State}
    (hstep : Steps env s s') (h : Unpopped env s) : Unpopped env s' := by
  obtain ⟨hcounted, hearlier⟩ := h
  cases hstep with
  | decoded hpushes =>
    rw [hpushes, List.countP_nil, Nat.add_zero] at hcounted
    constructor
    · rw [countP_fanOut, hcounted, arrivals, arrivals, Finset.sum_range_succ]
    · rw [hcounted, Nat.add_sub_cancel]
  | pushedTelemetry sig rest hpushes =>
    rw [hpushes] at hcounted
    exact ⟨by simpa [Push.isAnomaly] using hcounted, hearlier⟩
  | pushedAnomaly sig rest hpushes =>
    rw [hpushes, List.countP_cons_of_pos rfl] at hcounted
    constructor
    · change (s.anomalyQ ++ [sig]).length + rest.countP Push.isAnomaly = arrivals env s.decoded
      rw [List.length_append, List.length_singleton]
      omega
    · exact Nat.le_trans hearlier (List.sublist_append_left _ _).length_le
  | poppedAnomaly rest hstarted =>
    rw [hnone] at hstarted
    contradiction
  | started | poppedTelemetry | timedOut => exact ⟨hcounted, hearlier⟩

theorem decoded_step {env : Env} {s s' : State} (hstep : Steps env s s') :
    s.decoded ≤ s'.decoded := by
  cases hstep with
  | decoded => exact Nat.le_succ _
  | started | pushedTelemetry | pushedAnomaly | poppedTelemetry | poppedAnomaly | timedOut =>
    exact Nat.le_refl _

private theorem arrivals_unbounded {env : Env} (h : ∀ first, ∃ n ≥ first, decodedAt env n ≠ [])
    (bound : Nat) : ∃ n, bound ≤ arrivals env n := by
  induction bound with
  | zero => exact ⟨0, Nat.zero_le _⟩
  | succ bound ih =>
    obtain ⟨n, hn⟩ := ih
    obtain ⟨m, hm, hsignals⟩ := h n
    refine ⟨m + 1, ?_⟩
    have hmono := arrivals_mono env hm
    have hlength := List.length_pos_iff.mpr hsignals
    rw [arrivals, Finset.sum_range_succ]
    unfold arrivals at hn hmono
    omega

private theorem arrivals_bounded {env : Env} {first : Nat} (h : ∀ n ≥ first, decodedAt env n = [])
    (n : Nat) : arrivals env n ≤ arrivals env first := by
  cases Nat.le_total n first with
  | inl hle => exact arrivals_mono env hle
  | inr hge =>
    induction hge with
    | refl => exact Nat.le_refl _
    | @step n hn ih =>
      have hnone := h n hn
      rw [arrivals, Finset.sum_range_succ, hnone, List.length_nil, Nat.add_zero]
      exact ih

/-- The queues of an unbounded run stay bounded exactly when the anomaly detector
was started, or the frames give no signals any more from some time on. -/
theorem queues_bounded_iff (env : Env) (schedule : Nat → Action)
    (hdecodes : ∀ count, ∃ n, count ≤ ((machine env).stateAt schedule n).decoded)
    (hpops : ∀ n, ∃ m ≥ n, CaughtUp env ((machine env).stateAt schedule m)) :
    Bounded env schedule ↔
      env.detectorStarts = true ∨ ∃ first, ∀ n ≥ first, decodedAt env n = [] := by
  have hunpopped (hnone : env.detectorStarts = false) (n : Nat) :
      Unpopped env ((machine env).stateAt schedule n) := by
    apply Machine.invariant_stateAt
    · constructor
      · rfl
      · exact Nat.zero_le _
    · exact fun _ _ _ hstep => unpopped_step hnone (step_steps hstep)
  constructor
  · rintro ⟨bound, hbound⟩
    by_contra hneither
    push Not at hneither
    obtain ⟨hnone, hsignals⟩ := hneither
    obtain ⟨count, hcount⟩ := arrivals_unbounded hsignals (bound + 1)
    obtain ⟨n, hn⟩ := hdecodes (count + 1)
    obtain ⟨m, hm, hcaught⟩ := hpops n
    have hlater : ((machine env).stateAt schedule n).decoded ≤
        ((machine env).stateAt schedule m).decoded := by
      apply Machine.monotone_stateAt _ schedule hm
      exact fun _ _ _ hstep => decoded_step (step_steps hstep)
    have hqueued := (hunpopped (Bool.not_eq_true _ ▸ hnone) m).earlier
    have hmono : arrivals env count ≤
        arrivals env (((machine env).stateAt schedule m).decoded - 1) := by
      apply arrivals_mono
      omega
    have hlow := (hbound m hcaught).2
    omega
  · intro h
    cases hdetector : env.detectorStarts with
    | true =>
      refine ⟨0, ?_⟩
      intro n hcaught
      rw [hcaught.1, hcaught.2 hdetector]
      exact ⟨Nat.le_refl _, Nat.le_refl _⟩
    | false =>
      obtain ⟨first, hfirst⟩ := h.resolve_left (by simp [hdetector])
      refine ⟨arrivals env first, ?_⟩
      intro n hcaught
      have hcounted := (hunpopped hdetector n).counted
      have hall := arrivals_bounded hfirst ((machine env).stateAt schedule n).decoded
      rw [hcaught.1]
      constructor
      · exact Nat.zero_le _
      · omega

def sampleEnv (detectorStarts : Bool) : Env where
  fpu := FrameIdentity.sampleFpu
  clock := fun _ _ => 0
  signals := (load FrameIdentity.sampleFpu (some (FrameIdentity.speedDbc (lit "180")))
    [FrameIdentity.speed] ∅).2
  frames := fun _ => CanReader.translate FrameIdentity.zeros (FrameIdentity.zeroFrame 180)
  detectorStarts := detectorStarts

def sampleSignal : DecodedSignal := ⟨FrameIdentity.speed, ⟨0⟩, lit "km/h", 0⟩

def sampleSchedule (n : Nat) : Action :=
  if n < 12 then .main true
  else
    match (n - 12) % 5 with
    | 0 => .decode
    | 1 | 2 => .push
    | 3 => .popTelemetry
    | _ => .popAnomaly

theorem sample_decodedAt (detectorStarts : Bool) (n : Nat) :
    decodedAt (sampleEnv detectorStarts) n = [sampleSignal] := by
  change decode FrameIdentity.sampleFpu (fun _ => 0) (sampleEnv true).signals
    (CanReader.translate FrameIdentity.zeros (FrameIdentity.zeroFrame 180)) = _
  decide +kernel

def sampleState (detectorStarts : Bool) (k : Nat) : State :=
  ⟨.decodeLoop, k, [], [], if detectorStarts then [] else List.replicate k sampleSignal⟩

private theorem sample_start (detectorStarts : Bool) :
    (machine (sampleEnv detectorStarts)).stateAt sampleSchedule 12 =
      sampleState detectorStarts 0 := by
  cases detectorStarts <;> rfl

theorem sample_cycle (detectorStarts : Bool) (k : Nat) :
    (machine (sampleEnv detectorStarts)).stateAt sampleSchedule (12 + 5 * k) =
      sampleState detectorStarts k := by
  induction k with
  | zero => exact sample_start detectorStarts
  | succ k ih =>
    have hpick (r : Nat) (hr : r < 5) : sampleSchedule (12 + 5 * k + r) =
        sampleSchedule (12 + r) := by
      unfold sampleSchedule
      rw [if_neg (by omega), if_neg (by omega), show (12 + 5 * k + r - 12) % 5 = r by omega,
        show (12 + r - 12) % 5 = r by omega]
    have hdecode := Machine.stateAt_succ ih (hpick 0 (by decide))
      (show (machine (sampleEnv detectorStarts)).step _ (sampleSchedule 12) =
        some { sampleState detectorStarts k with
          decoded := k + 1, pushes := fanOut (decodedAt (sampleEnv detectorStarts) k) } from rfl)
    rw [sample_decodedAt] at hdecode
    have htelemetry := Machine.stateAt_succ hdecode (hpick 1 (by decide)) rfl
    have hanomaly := Machine.stateAt_succ htelemetry (hpick 2 (by decide)) rfl
    have hpop := Machine.stateAt_succ hanomaly (hpick 3 (by decide)) rfl
    cases detectorStarts with
    | true => exact Machine.stateAt_succ hpop (hpick 4 (by decide)) rfl
    | false =>
      have hblocked (s : State) : (machine (sampleEnv false)).step s .popAnomaly = none :=
        stepAnomaly_none rfl s
      change (machine (sampleEnv false)).stateAt sampleSchedule (12 + 5 * k + 4 + 1) = _
      rw [Machine.stateAt, hpop, hpick 4 (by decide),
        show sampleSchedule (12 + 4) = .popAnomaly from rfl, hblocked]
      simp [sampleState, List.replicate_succ']

theorem sample_caughtUp (detectorStarts : Bool) (n : Nat) :
    ∃ m ≥ n, CaughtUp (sampleEnv detectorStarts)
      ((machine (sampleEnv detectorStarts)).stateAt sampleSchedule m) := by
  refine ⟨12 + 5 * n, by omega, ?_⟩
  rw [sample_cycle]
  constructor
  · rfl
  · intro hstarted
    change detectorStarts = true at hstarted
    simp [sampleState, hstarted]

private theorem sample_decodes (detectorStarts : Bool) (count : Nat) :
    ∃ n, count ≤
      ((machine (sampleEnv detectorStarts)).stateAt sampleSchedule n).decoded := by
  refine ⟨12 + 5 * count, ?_⟩
  rw [sample_cycle]
  exact Nat.le_refl _

theorem queues_bounded_with_detector : Bounded (sampleEnv true) sampleSchedule :=
  (queues_bounded_iff (sampleEnv true) sampleSchedule (sample_decodes true)
    (sample_caughtUp true)).mpr (.inl rfl)

theorem queues_unbounded_without_detector :
    (∀ n, ∃ m ≥ n, CaughtUp (sampleEnv false)
        ((machine (sampleEnv false)).stateAt sampleSchedule m)) ∧
      ¬Bounded (sampleEnv false) sampleSchedule := by
  refine ⟨sample_caughtUp false, ?_⟩
  rintro ⟨bound, hbound⟩
  have hcaught : CaughtUp (sampleEnv false) (sampleState false (bound + 1)) := by
    constructor
    · rfl
    · intro hstarted
      cases hstarted
  rw [← sample_cycle] at hcaught
  have hlength := (hbound _ hcaught).2
  rw [sample_cycle] at hlength
  simp [sampleState] at hlength

end SdvGateway.Gateway.Fanout

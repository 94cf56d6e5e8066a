import SdvGateway.CanLayer.CanReader
import SdvGateway.Gateway.Fanout
import SdvGateway.Library.Channel

/-! The uplink: the CAN reader, the decode loop and the two consumers step in any
order and meet in three queues. A thread that has ended takes no step any more. -/
namespace SdvGateway.Gateway.Uplink
open Common Library CanLayer SignalDecoder
open CanReader (ReadResult KernelFrame translate)
open Fanout (Push fanOut)

structure Env where
  fpu : Fpu
  signals : SignalTable

/-- `reads` is what `read` has returned so far, each time with what the stack held.
`inHand` is a frame that was read and is not pushed yet, and `pushes` what the decode
loop has still to push of the frame that it popped last. -/
structure State where
  reads : List (ReadResult × Vector UInt8 8)
  inHand : Option CanFrame
  frames : Channel CanFrame
  pushes : List Push
  telemetry : Channel DecodedSignal
  anomaly : Channel DecodedSignal

/-- Every wait can time out, which changes none of the queues. -/
inductive Action where
  | read (result : ReadResult) (uninitialised : Vector UInt8 8)
  | pushFrame
  | popFrame (clock : Str → Int)
  | push
  | popTelemetry
  | popAnomaly
  | timeout

def stepRead (s : State) (result : ReadResult) (uninitialised : Vector UInt8 8) :
    Option State :=
  match s.inHand with
  | some _ => none
  | none =>
    let reads := s.reads ++ [(result, uninitialised)]
    match result with
    | .failed | .short => some { s with reads }
    | .complete raw => some { s with reads, inHand := some (translate uninitialised raw) }

def stepPushFrame (s : State) : Option State :=
  s.inHand.map fun frame => { s with inHand := none, frames := s.frames.push frame }

def stepPopFrame (env : Env) (s : State) (clock : Str → Int) : Option State :=
  match s.pushes with
  | _ :: _ => none
  | [] =>
    s.frames.pop?.map fun (frame, frames) =>
      { s with frames, pushes := fanOut (decode env.fpu clock env.signals frame) }

def stepPush (s : State) : Option State :=
  match s.pushes with
  | [] => none
  | .telemetry sig :: rest =>
    some { s with pushes := rest, telemetry := s.telemetry.push sig }
  | .anomaly sig :: rest => some { s with pushes := rest, anomaly := s.anomaly.push sig }

def machine (env : Env) : Machine State Action where
  init := ⟨[], none, .empty, [], .empty, .empty⟩
  step s action :=
    match action with
    | .read result uninitialised => stepRead s result uninitialised
    | .pushFrame => stepPushFrame s
    | .popFrame clock => stepPopFrame env s clock
    | .push => stepPush s
    | .popTelemetry => s.telemetry.pop?.map fun (_, telemetry) => { s with telemetry }
    | .popAnomaly => s.anomaly.pop?.map fun (_, anomaly) => { s with anomaly }
    | .timeout => some s

def untimed (sig : DecodedSignal) : DecodedSignal := { sig with timestamp := 0 }

def readings (env : Env) (frame : CanFrame) : List DecodedSignal :=
  decode env.fpu (fun _ => 0) env.signals frame

theorem untimed_decode (env : Env) (clock : Str → Int) (frame : CanFrame) :
    (decode env.fpu clock env.signals frame).map untimed = readings env frame := by
  unfold readings decode
  rw [List.map_filterMap]
  apply List.filterMap_congr
  intro entry _
  split <;> rfl

def telemetrySignals (pushes : List Push) : List DecodedSignal :=
  pushes.filterMap fun push =>
    match push with
    | .telemetry sig => some sig
    | .anomaly _ => none

def anomalySignals (pushes : List Push) : List DecodedSignal :=
  pushes.filterMap fun push =>
    match push with
    | .telemetry _ => none
    | .anomaly sig => some sig

theorem telemetrySignals_fanOut (values : List DecodedSignal) :
    telemetrySignals (fanOut values) = values := by
  induction values with
  | nil => rfl
  | cons sig rest ih => exact congrArg (sig :: ·) ih

theorem anomalySignals_fanOut (values : List DecodedSignal) :
    anomalySignals (fanOut values) = values := by
  induction values with
  | nil => rfl
  | cons sig rest ih => exact congrArg (sig :: ·) ih

/-- What was read has been pushed or is in the reader's hand, and what was decoded
has been pushed to both queues or is about to be. -/
structure InFlight (env : Env) (s : State) : Prop where
  read : s.frames.pushed ++ s.inHand.toList = CanReader.run s.reads
  alike : s.anomaly.pushed ++ anomalySignals s.pushes =
    s.telemetry.pushed ++ telemetrySignals s.pushes
  decoded : (s.telemetry.pushed ++ telemetrySignals s.pushes).map untimed =
    s.frames.popped.flatMap (readings env)

theorem run_append (reads more : List (ReadResult × Vector UInt8 8)) :
    CanReader.run (reads ++ more) = CanReader.run reads ++ CanReader.run more := by
  simp [CanReader.run_eq_map, CanReader.framesRead]

theorem inFlight_init (env : Env) : InFlight env (machine env).init := by
  constructor <;> rfl

theorem inFlight_read {env : Env} {s s' : State} {result : ReadResult}
    {uninitialised : Vector UInt8 8} (hstep : stepRead s result uninitialised = some s')
    (h : InFlight env s) : InFlight env s' := by
  obtain ⟨hread, halike, hdecoded⟩ := h
  unfold stepRead at hstep
  split at hstep
  · cases hstep
  · next hnone =>
    rw [hnone, Option.toList_none, List.append_nil] at hread
    cases result with
    | failed | short =>
      obtain rfl := Option.some.inj hstep
      refine ⟨?_, halike, hdecoded⟩
      rw [run_append, hnone, hread]
      rfl
    | complete raw =>
      obtain rfl := Option.some.inj hstep
      refine ⟨?_, halike, hdecoded⟩
      rw [run_append, hread]
      rfl

theorem inFlight_pushFrame {env : Env} {s s' : State} (hstep : stepPushFrame s = some s')
    (h : InFlight env s) : InFlight env s' := by
  obtain ⟨frame, hframe, rfl⟩ := Option.map_eq_some_iff.mp hstep
  refine ⟨?_, h.alike, h.decoded⟩
  have hread := h.read
  rw [hframe] at hread
  simpa using hread

private theorem inFlight_popFrame {env : Env} {s s' : State} {clock : Str → Int}
    (hstep : stepPopFrame env s clock = some s') (h : InFlight env s) : InFlight env s' := by
  obtain ⟨hread, halike, hdecoded⟩ := h
  unfold stepPopFrame at hstep
  split at hstep
  · cases hstep
  · next hpushes =>
    obtain ⟨⟨frame, frames⟩, hpop, rfl⟩ := Option.map_eq_some_iff.mp hstep
    obtain ⟨hpushed, hpopped⟩ := Channel.pop?_eq_some hpop
    rw [hpushes] at halike hdecoded
    have hequal : s.anomaly.pushed = s.telemetry.pushed := by
      simpa [anomalySignals, telemetrySignals] using halike
    have hbefore : s.telemetry.pushed.map untimed = s.frames.popped.flatMap (readings env) := by
      simpa [telemetrySignals] using hdecoded
    constructor
    · simpa only [hpushed] using hread
    · rw [anomalySignals_fanOut, telemetrySignals_fanOut, hequal]
    · rw [telemetrySignals_fanOut, List.map_append, hbefore, untimed_decode, hpopped]
      simp

private theorem inFlight_push {env : Env} {s s' : State} (hstep : stepPush s = some s')
    (h : InFlight env s) : InFlight env s' := by
  obtain ⟨hread, halike, hdecoded⟩ := h
  unfold stepPush at hstep
  split at hstep
  · cases hstep
  · next hpushes =>
    obtain rfl := Option.some.inj hstep
    rw [hpushes] at halike hdecoded
    exact ⟨hread, by simpa [telemetrySignals, anomalySignals] using halike,
      by simpa [telemetrySignals] using hdecoded⟩
  · next hpushes =>
    obtain rfl := Option.some.inj hstep
    rw [hpushes] at halike hdecoded
    exact ⟨hread, by simpa [telemetrySignals, anomalySignals] using halike,
      by simpa [telemetrySignals] using hdecoded⟩

theorem inFlight_step {env : Env} {s s' : State} {action : Action}
    (hstep : (machine env).step s action = some s') (h : InFlight env s) : InFlight env s' := by
  cases action with
  | read result uninitialised => exact inFlight_read hstep h
  | pushFrame => exact inFlight_pushFrame hstep h
  | popFrame clock => exact inFlight_popFrame hstep h
  | push => exact inFlight_push hstep h
  | popTelemetry =>
    obtain ⟨⟨sig, telemetry⟩, hpop, rfl⟩ := Option.map_eq_some_iff.mp hstep
    obtain ⟨hpushed, _⟩ := Channel.pop?_eq_some hpop
    exact ⟨h.read, by simpa only [hpushed] using h.alike, by simpa only [hpushed] using h.decoded⟩
  | popAnomaly =>
    obtain ⟨⟨sig, anomaly⟩, hpop, rfl⟩ := Option.map_eq_some_iff.mp hstep
    obtain ⟨hpushed, _⟩ := Channel.pop?_eq_some hpop
    exact ⟨h.read, by simpa only [hpushed] using h.alike, h.decoded⟩
  | timeout =>
    obtain rfl := Option.some.inj hstep
    exact h

def allReadings (env : Env) (s : State) : List DecodedSignal :=
  (CanReader.run s.reads).flatMap (readings env)

theorem InFlight.decoded_prefix {env : Env} {s : State} (h : InFlight env s) :
    (s.telemetry.pushed ++ telemetrySignals s.pushes).map untimed <+: allReadings env s := by
  rw [h.decoded, allReadings, ← h.read]
  exact (s.frames.popped_prefix.trans (List.prefix_append _ _)).flatMap _

theorem InFlight.telemetry_prefix {env : Env} {s : State} (h : InFlight env s) :
    s.telemetry.popped.map untimed <+: allReadings env s := by
  have hpopped := s.telemetry.popped_prefix.trans
    (List.prefix_append _ (telemetrySignals s.pushes))
  exact (hpopped.map untimed).trans h.decoded_prefix

theorem InFlight.anomaly_prefix {env : Env} {s : State} (h : InFlight env s) :
    s.anomaly.popped.map untimed <+: allReadings env s := by
  have hpopped := s.anomaly.popped_prefix.trans (List.prefix_append _ (anomalySignals s.pushes))
  rw [h.alike] at hpopped
  exact (hpopped.map untimed).trans h.decoded_prefix

theorem InFlight.between_frames {env : Env} {s : State} (h : InFlight env s)
    (hbetween : s.pushes = []) :
    s.telemetry.pushed = s.anomaly.pushed ∧
      s.telemetry.pushed.map untimed = s.frames.popped.flatMap (readings env) := by
  have halike := h.alike
  have hdecoded := h.decoded
  simp only [hbetween, anomalySignals, telemetrySignals, List.filterMap_nil, List.append_nil]
    at halike hdecoded
  exact ⟨halike.symm, hdecoded⟩

/-- However the four threads interleave, each frame that was read has been pushed or is in
the reader's hand, and both consumers have popped a beginning of the readings of these
frames. Between two frames both queues have got the same signals, those of the frames that
were popped. -/
theorem uplink_in_order (env : Env) (actions : List Action) :
    (machine env).Always
      (fun s =>
        s.frames.pushed ++ s.inHand.toList = CanReader.run s.reads ∧
        s.telemetry.popped.map untimed <+: allReadings env s ∧
        s.anomaly.popped.map untimed <+: allReadings env s ∧
        (s.pushes = [] → s.telemetry.pushed = s.anomaly.pushed ∧
          s.telemetry.pushed.map untimed = s.frames.popped.flatMap (readings env)))
      (machine env).init actions :=
  Machine.always_of_invariant (I := InFlight env) (fun _ _ _ => inFlight_step)
    (fun _ h => ⟨h.read, h.telemetry_prefix, h.anomaly_prefix, h.between_frames⟩)
    (inFlight_init env) actions

def speedEnv : Env where
  fpu := FrameIdentity.sampleFpu
  signals := (∅ : SignalTable).insert (lit "VEHICLE_SPEED") ⟨180, 40, 16, true, false, ⟨0⟩, ⟨0⟩, []⟩

def oneFrame : List Action := [
  .read (.complete (FrameIdentity.zeroFrame 180)) FrameIdentity.zeros, .pushFrame, .timeout,
  .popFrame fun _ => 7, .push, .popTelemetry, .push, .popAnomaly]

-- The speed of a frame arrives at both consumers.
example :
    let s := (machine speedEnv).stateAt (fun n => oneFrame.getD n .timeout) 8
    s.telemetry.popped.map (·.name) = [lit "VEHICLE_SPEED"] ∧
      s.anomaly.popped.map (·.name) = [lit "VEHICLE_SPEED"] := by
  decide

end SdvGateway.Gateway.Uplink

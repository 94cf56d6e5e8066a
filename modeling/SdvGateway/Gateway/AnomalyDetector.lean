import SdvGateway.Common.Timestamp

/-! The anomaly detector: it scores each decoded signal and publishes an alert
for a score above the threshold. The model and the arithmetic on `float` are
parameters. -/
namespace SdvGateway.Gateway.AnomalyDetector
open Common

structure SingleUnit where
  ofDouble : Double → Single
  sub : Single → Single → Single
  div : Single → Single → Single
  toDouble : Single → Double

structure Env where
  json : JsonText
  singles : SingleUnit
  model : Single → Single
  uin : Str
  threshold : Single

def normalBounds : List (Str × Single × Single) := [
  (lit "VEHICLE_SPEED", ⟨0x00000000⟩, ⟨0x430C0000⟩),
  (lit "ENGINE_RPM", ⟨0x44160000⟩, ⟨0x45CB2000⟩),
  (lit "ENGINE_COOLANT_TEMP", ⟨0x42700000⟩, ⟨0x42D20000⟩),
  (lit "BATTERY_VOLTAGE", ⟨0x41380000⟩, ⟨0x41680000⟩),
  (lit "GEAR_SHIFT", ⟨0x00000000⟩, ⟨0x40800000⟩)]

/-- The value on the scale of its signal's normal band; a signal without one is
passed through. -/
def runInference (env : Env) (signal : DecodedSignal) : Single :=
  let raw := env.singles.ofDouble signal.value
  match normalBounds.lookup signal.name with
  | none => env.model raw
  | some (lo, hi) =>
    env.model (env.singles.div (env.singles.sub raw lo) (env.singles.sub hi lo))

/-- `score > 0.95f` -/
def severity (score : Single) : Str :=
  if Single.lt ⟨0x3F733333⟩ score then lit "CRITICAL" else lit "WARNING"

def alertJson (env : Env) (now : Int) (signal : DecodedSignal) (score : Single) : Json :=
  .object [
    (lit "anomaly_prob", .float (env.singles.toDouble score)),
    (lit "anomaly_score", .float (env.singles.toDouble score)),
    (lit "severity", .string (severity score)),
    (lit "signal_name", .string signal.name),
    (lit "threshold", .float (env.singles.toDouble env.threshold)),
    (lit "timestamp", .string (iso8601Utc now)),
    (lit "uin", .string env.uin),
    (lit "unit", .string signal.unit),
    (lit "value", .float signal.value),
    (lit "vehicle_speed_kmh", .float ⟨0⟩)]

def alertTopic (uin : Str) : Str := lit "sdv/Analytics/from/uin/" ++ uin ++ lit "/anomaly"

structure Alert where
  message : Message
  published : Bool

/-- A failed publish is caught and logged; a failed `dump` is not. -/
def publishAlert (env : Env) (now : Int) (published : Bool) (signal : DecodedSignal)
    (score : Single) : Except JsonError Alert := do
  let payload ← env.json.dump (alertJson env now signal score)
  return ⟨⟨alertTopic env.uin, payload⟩, published⟩

/-- One turn of `while (running_)`: `pop_for` times out or yields a signal. `now`
is the clock and `published` the broker's answer if an alert is built. -/
inductive Turn where
  | timeout
  | popped (signal : DecodedSignal) (now : Int) (published : Bool)

def Turn.signal? : Turn → Option DecodedSignal
  | .timeout => none
  | .popped signal _ _ => some signal

def fires (env : Env) (signal : DecodedSignal) : Bool :=
  Single.lt env.threshold (runInference env signal)

def handle (env : Env) (signal : DecodedSignal) (now : Int) (published : Bool) :
    Except JsonError (Option Alert) :=
  if fires env signal then
    some <$> publishAlert env now published signal (runInference env signal)
  else .ok none

/-- The alerts, and the exception that leaves the thread if there is one. -/
def run (env : Env) : List Turn → List Alert × Option JsonError
  | [] => ([], none)
  | .timeout :: rest => run env rest
  | .popped signal now published :: rest =>
    match handle env signal now published with
    | .error e => ([], some e)
    | .ok alert =>
      let after := run env rest
      (alert.toList ++ after.1, after.2)

private theorem alertJson_printable (env : Env) (now : Int) (signal : DecodedSignal)
    (score : Single) : (alertJson env now signal score).printable =
      (isUtf8 signal.name && (isUtf8 env.uin && isUtf8 signal.unit)) := by
  have hkeys : isUtf8 (lit "anomaly_prob") = true ∧ isUtf8 (lit "anomaly_score") = true ∧
      isUtf8 (lit "severity") = true ∧ isUtf8 (lit "signal_name") = true ∧
      isUtf8 (lit "threshold") = true ∧ isUtf8 (lit "timestamp") = true ∧
      isUtf8 (lit "uin") = true ∧ isUtf8 (lit "unit") = true ∧ isUtf8 (lit "value") = true ∧
      isUtf8 (lit "vehicle_speed_kmh") = true := by decide
  have hseverity : isUtf8 (severity score) = true := by
    unfold severity
    split <;> decide
  have hnow : isUtf8 (iso8601Utc now) = true := isUtf8_of_ascii (iso8601Utc_ascii now)
  simp [alertJson, Json.printable, Json.printableMembers, hkeys, hseverity, hnow]

theorem handle_error_iff (env : Env) (signal : DecodedSignal) (now : Int) (published : Bool)
    (hname : isUtf8 signal.name = true) :
    (∃ e, handle env signal now published = .error e) ↔
      ¬(fires env signal = true → isUtf8 signal.unit = true ∧ isUtf8 env.uin = true) := by
  unfold handle publishAlert JsonText.dump
  rw [alertJson_printable, hname, Bool.true_and]
  cases hfires : fires env signal with
  | false => simp
  | true =>
    cases huin : isUtf8 env.uin <;> cases hunit : isUtf8 signal.unit <;>
      simp [bind, Except.bind, pure, Except.pure, Functor.map, Except.map]

/-- A model that calls everything anomalous, and its arithmetic at zero degrees:
the normalized value is -60 / 45. -/
def sampleEnv : Env where
  json :=
    { parse := fun _ => .error .parseError
      floatText := fun d => if d = ⟨0x3FF0000000000000⟩ then lit "1.0"
        else if d = ⟨0x3FEB333340000000⟩ then lit "0.8500000238418579" else lit "0.0" }
  singles :=
    { ofDouble := fun _ => ⟨0⟩
      sub := fun a _ => if a = ⟨0⟩ then ⟨0xC2700000⟩ else ⟨0x42340000⟩
      div := fun _ _ => ⟨0xBFAAAAAB⟩
      toDouble := fun s =>
        if s = ⟨0x3F800000⟩ then ⟨0x3FF0000000000000⟩ else ⟨0x3FEB333340000000⟩ }
  model := fun _ => ⟨0x3F800000⟩
  uin := lit "2T1BURHE0JC123456"
  threshold := ⟨0x3F59999A⟩

end SdvGateway.Gateway.AnomalyDetector

import SdvGateway.Cloud.DiagnosticAgent
import SdvGateway.Cloud.Rules
import SdvGateway.Gateway.AnomalyDetector

/-! From an alert of the gateway to its diagnosis. The IoT rule selects `*`, so the
function is invoked with the alert itself, while it looks for the alert in a
member `payload`. -/
namespace SdvGateway.Cloud.AnomalyLoop
open Common Library Python DiagnosticAgent
open Gateway.AnomalyDetector (alertJson)

/-- A number that is not finite is published as `null`. -/
def transmitted : Json → Json
  | .float value => if value.isFinite then .float value else .null
  | other => other

/-- The event with which the rule invokes the function. -/
def invocation (functionArn : Str) (arrival : Int) (alert : Json) : Json :=
  match alert with
  | .object members => .object ((Rules.createAnomalyRule (some functionArn)).selected arrival
      (members.map fun entry => (entry.1, transmitted entry.2)))
  | other => other

theorem invocation_object (functionArn : Str) (arrival : Int) (members : List (Str × Json)) :
    invocation functionArn arrival (.object members) =
      .object (members.map fun entry => (entry.1, transmitted entry.2)) := rfl

def CarriesContext (signalName : Str) (diagnosis : Json) : Prop :=
  item diagnosis (lit "dtc") = .ok (.string (contextOf signalName).dtc) ∧
    item diagnosis (lit "asil") = .ok (.string (contextOf signalName).asil)

/-- The alert of a vehicle about a signal ends with a diagnosis for that vehicle or
with an alert of the operator. -/
def Closes (uin signalName : Str) (effects : List Effect) : Prop :=
  (∃ diagnosis, Effect.published (diagnosisTopic uin) diagnosis true ∈ effects ∧
      CarriesContext signalName diagnosis) ∨
    ∃ topicArn subject anomaly diagnosis,
      Effect.alerted topicArn subject (operatorMessage (.string uin) anomaly diagnosis) true ∈
        effects ∧ CarriesContext signalName diagnosis

theorem lambdaHandler_without_payload (python : Python) (world : World)
    {members : List (Str × Json)} (h : Json.member? (lit "payload") members = none) :
    lambdaHandler python world (.object members) () =
      ⟨.ok ⟨500, python.message (.keyError (lit "signal_name"))⟩, (), []⟩ := by
  have hpayload : Python.get (.object members) (lit "payload") (.string [0x7B, 0x7D]) =
      .ok (.string [0x7B, 0x7D]) := by
    simp [Python.get, h]
  have hanomaly : python.loadsValue (.string [0x7B, 0x7D]) = .ok (.object []) :=
    python.loads_empty
  have hcontext : retrieveContext (.string []) = .ok unknownContext := by decide
  have hprompt : promptText python (.object []) unknownContext =
      .error (.keyError (lit "signal_name")) := rfl
  have hllm : callLlm python world (.object []) unknownContext () =
      ⟨.error (.keyError (lit "signal_name")), (), []⟩ := by
    rw [callLlm, Program.ofExcept_bind_error hprompt]
  have hown : Python.get (.object []) (lit "uin") (.string (lit "UNKNOWN")) =
      .ok (.string (lit "UNKNOWN")) := rfl
  have huin : Python.get (.object members) (lit "uin") (.string (lit "UNKNOWN")) =
      .ok ((Json.member? (lit "uin") members).getD (.string (lit "UNKNOWN"))) := rfl
  have hname : Python.get (.object []) (lit "signal_name") (.string []) = .ok (.string []) := rfl
  have hbody : diagnose python world (.object members) () =
      ⟨.error (.keyError (lit "signal_name")), (), []⟩ := by
    rw [diagnose, Program.ofExcept_bind_ok hpayload, Program.ofExcept_bind_ok hanomaly,
      Program.ofExcept_bind_ok hown, Program.ofExcept_bind_ok huin,
      Program.ofExcept_bind_ok hname, Program.ofExcept_bind_ok hcontext,
      Program.bind_error hllm]
  rw [lambdaHandler, Program.tryCatch_error hbody]
  rfl

theorem invocation_payload (functionArn : Str) (arrival : Int)
    (env : Gateway.AnomalyDetector.Env) (now : Int) (signal : DecodedSignal) (score : Single) :
    ∃ members, invocation functionArn arrival (alertJson env now signal score) = .object members ∧
      Json.member? (lit "payload") members = none := by
  refine ⟨_, invocation_object _ _ _, ?_⟩
  have hother : lit "anomaly_prob" ≠ lit "payload" ∧ lit "anomaly_score" ≠ lit "payload" ∧
      lit "severity" ≠ lit "payload" ∧ lit "signal_name" ≠ lit "payload" ∧
      lit "threshold" ≠ lit "payload" ∧ lit "timestamp" ≠ lit "payload" ∧
      lit "uin" ≠ lit "payload" ∧ lit "unit" ≠ lit "payload" ∧ lit "value" ≠ lit "payload" ∧
      lit "vehicle_speed_kmh" ≠ lit "payload" := by decide
  simp [Json.member?, hother]

/-- No alert that the gateway can build is diagnosed, whatever the model replies and
whether or not the services work. -/
theorem anomaly_loop_open (functionArn : Str) (arrival : Int)
    (env : Gateway.AnomalyDetector.Env) (now : Int) (signal : DecodedSignal) (score : Single)
    (python : Python) (world : World) :
    ¬Closes env.uin signal.name (lambdaHandler python world
      (invocation functionArn arrival (alertJson env now signal score)) ()).trace := by
  obtain ⟨members, hevent, hpayload⟩ :=
    invocation_payload functionArn arrival env now signal score
  rw [hevent, lambdaHandler_without_payload python world hpayload]
  simp [Closes]

def sampleSignal : DecodedSignal := ⟨lit "BATTERY_VOLTAGE", ⟨0⟩, lit "V", 0⟩

def sampleAlert : Json :=
  alertJson Gateway.AnomalyDetector.sampleEnv 0 sampleSignal ⟨0x3F800000⟩

def sampleReply : Str := 0x7B :: lit "\"escalate_human\":false" ++ [0x7D]

def sampleBody : Str :=
  0x7B :: lit "\"content\":[" ++ 0x7B :: lit "\"text\":\"" ++
    0x7B :: lit "\\\"escalate_human\\\":false" ++ 0x7D :: lit "\"" ++ 0x7D :: lit "]" ++ [0x7D]

def sampleAlertText : Str := Gateway.AnomalyDetector.sampleEnv.json.compact sampleAlert

def samplePython : Python where
  loads text :=
    if text = [0x7B, 0x7D] then .ok (.object [])
    else if text = sampleReply then .ok (.object [(lit "escalate_human", .boolean false)])
    else if text = sampleBody then
      .ok (.object [(lit "content", .array [.object [(lit "text", .string sampleReply)]])])
    else if text = sampleAlertText then .ok sampleAlert
    else .error .valueError
  loads_empty := rfl
  dumps _ := sampleReply
  str _ := lit "0.0"
  percent _ := lit "100%"
  message _ := lit "'signal_name'"

def sampleWorld : World :=
  ⟨some sampleBody, some (lit "arn:aws:sns:eu-west-1:0:operators"), true, true, []⟩

def sampleFunction : Str := lit "arn:aws:lambda:eu-west-1:0:function:diagnostic_agent"

theorem loop_open_battery :
    Gateway.AnomalyDetector.sampleEnv.json.dump sampleAlert = .ok sampleAlertText ∧
      samplePython.loads sampleReply =
        .ok (.object [(lit "escalate_human", .boolean false)]) ∧
      ¬Closes Gateway.AnomalyDetector.sampleEnv.uin sampleSignal.name
        (lambdaHandler samplePython sampleWorld (invocation sampleFunction 0 sampleAlert)
          ()).trace := by
  refine ⟨?_, ?_, ?_⟩
  · have hprintable : sampleAlert.printable = true := by decide +kernel
    rw [JsonText.dump, if_pos hprintable]
    rfl
  · have hother : sampleReply ≠ [0x7B, 0x7D] := by decide
    simp [samplePython, hother]
  · obtain ⟨members, hevent, hpayload⟩ :=
      invocation_payload sampleFunction 0 Gateway.AnomalyDetector.sampleEnv 0 sampleSignal
        ⟨0x3F800000⟩
    rw [sampleAlert, hevent, lambdaHandler_without_payload samplePython sampleWorld hpayload]
    simp [Closes]

/-- With the alert under `payload` the same run ends with an alert of the operator. -/
example :
    let event := Json.object [(lit "payload", .string sampleAlertText)]
    let run := lambdaHandler samplePython sampleWorld event ()
    run.outcome = .ok ⟨200, lit "Escalated to human operator"⟩ ∧ run.trace.length = 2 := by
  decide +kernel

end SdvGateway.Cloud.AnomalyLoop

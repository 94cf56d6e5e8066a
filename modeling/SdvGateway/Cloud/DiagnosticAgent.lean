import SdvGateway.Cloud.Python

/-! The diagnostic Lambda: it looks up what is known about the signal, asks the
language model, and sends the diagnosis to the vehicle or to an operator. The
answers of the three services are inputs. -/
namespace SdvGateway.Cloud.DiagnosticAgent
open Common Library Python

structure Context where
  dtc : Str
  desc : Str
  isoRef : Str
  asil : Str
  safeState : Str
deriving DecidableEq

def dtcKnowledgeBase : List (Str × Context) := [
  (lit "ENGINE_COOLANT_TEMP", {
    dtc := lit "P0217"
    desc := lit "Engine over temperature condition"
    isoRef := lit "ISO 26262-6 §7.4.8 — thermal runaway detection"
    asil := lit "ASIL-B"
    safeState := lit "Reduce engine load, pull over safely if sustained" }),
  (lit "BATTERY_VOLTAGE", {
    dtc := lit "P0562"
    desc := lit "System voltage low"
    isoRef := lit "ISO 26262-5 §9.4.3 — power supply monitoring"
    asil := lit "ASIL-A"
    safeState := lit "Graceful degradation of non-critical systems" }),
  (lit "VEHICLE_SPEED", {
    dtc := lit "C0035"
    desc := lit "Wheel speed sensor anomaly"
    isoRef := lit "ISO 26262-4 §8.4.5 — plausibility monitoring"
    asil := lit "ASIL-C"
    safeState := lit "Disable ABS/ESC, alert driver" })]

def unknownContext : Context where
  dtc := lit "U0000"
  desc := lit "Unknown signal anomaly"
  isoRef := lit "ISO 26262-3 §7.4 — general safety goal monitoring"
  asil := lit "QM"
  safeState := lit "Log and monitor"

def contextOf (signalName : Str) : Context :=
  (dtcKnowledgeBase.lookup signalName).getD unknownContext

def retrieveContext (signalName : Json) : Except PyError Context :=
  match signalName with
  | .string name => .ok (contextOf name)
  | .array _ | .object _ => .error .typeError
  | _ => .ok unknownContext

/-- What the services answer: `bedrock` is the body of the response, `none` when
`invoke_model` raises; `topicArn` is the environment variable. -/
structure World where
  bedrock : Option Str
  topicArn : Option Str
  snsOk : Bool
  iotOk : Bool
  now : Str

/-- The calls that leave the function, with their JSON before `dumps`. -/
inductive Effect where
  | invoked (prompt : Str)
  | alerted (topicArn subject : Str) (message : Json) (ok : Bool)
  | published (topic : Str) (payload : Json) (ok : Bool)

abbrev Lambda := Program PyError Unit Effect

def promptText (python : Python) (anomaly : Json) (context : Context) : Except PyError Str := do
  let signalName ← item anomaly (lit "signal_name")
  let value ← item anomaly (lit "value")
  let probability ← python.formatPercent (← item anomaly (lit "anomaly_prob"))
  let severity ← item anomaly (lit "severity")
  let uin ← item anomaly (lit "uin")
  let speed ← item anomaly (lit "vehicle_speed_kmh")
  let start := lit "You are an automotive diagnostic AI assistant with expertise in ISO 26262 functional safety.\n\nANOMALY DETECTED:\n"
  let anomalyLines :=
    lit "- Signal: " ++ python.format signalName ++
    lit "\n- Value: " ++ python.format value ++ lit " (anomaly confidence: " ++ probability ++
    lit ")\n- Severity: " ++ python.format severity ++
    lit "\n- Vehicle: UIN=" ++ python.format uin ++ lit ", Speed=" ++ python.format speed ++
    lit " km/h\n"
  let contextLines :=
    lit "\nRETRIEVED SAFETY CONTEXT (RAG):\n- DTC Code: " ++ context.dtc ++ lit " — " ++
    context.desc ++ lit "\n- ISO 26262 Reference: " ++ context.isoRef ++
    lit "\n- ASIL Level: " ++ context.asil ++ lit "\n- Safe State: " ++ context.safeState
  let request := lit "\n\nProvide a concise diagnostic response in JSON with keys:\n  root_cause, recommended_action, driver_message (max 20 words, plain language), escalate_human (bool)\n"
  return start ++ anomalyLines ++ contextLines ++ request

def callLlm (python : Python) (world : World) (anomaly : Json) (context : Context) :
    Lambda Json := do
  let prompt ← Program.ofExcept (promptText python anomaly context)
  Program.emit fun _ => .invoked prompt
  match world.bedrock with
  | none => Program.throw .clientError
  | some body =>
    Program.ofExcept do
      let result ← python.loads body
      item (← first (← item result (lit "content"))) (lit "text")

def diagnosisTopic (uin : Str) : Str := lit "sdv/Analytics/to/uin/" ++ uin ++ lit "/diagnosis"

def publishDiagnosis (python : Python) (world : World) (uin diagnosis : Json) : Lambda Unit := do
  let payload ← Program.ofExcept (setItem diagnosis (lit "timestamp") (.string world.now))
  Program.emit fun _ => .published (diagnosisTopic (python.format uin)) payload world.iotOk
  if world.iotOk then pure () else Program.throw .clientError

theorem publishDiagnosis_ok {python : Python} {diagnosis payload : Json} {world : World}
    (h : setItem diagnosis (lit "timestamp") (.string world.now) = .ok payload) (uin : Json) :
    publishDiagnosis python world uin diagnosis () =
      ⟨if world.iotOk then .ok () else .error .clientError, (),
        [.published (diagnosisTopic (python.format uin)) payload world.iotOk]⟩ := by
  rw [publishDiagnosis, Program.ofExcept_bind_ok h, Program.bind_ok (Program.emit_apply _ _)]
  cases world.iotOk <;> rfl

theorem publishDiagnosis_error {python : Python} {diagnosis : Json} {world : World} {e : PyError}
    (h : setItem diagnosis (lit "timestamp") (.string world.now) = .error e) (uin : Json) :
    publishDiagnosis python world uin diagnosis () = ⟨.error e, (), []⟩ := by
  rw [publishDiagnosis, Program.ofExcept_bind_error h]

def operatorMessage (uin anomaly diagnosis : Json) : Json :=
  .object [
    (lit "uin", uin),
    (lit "anomaly", anomaly),
    (lit "ai_diagnosis", diagnosis),
    (lit "action_required",
      .string (lit "Review and confirm diagnosis before vehicle notification"))]

def alertHumanOperator (python : Python) (world : World) (uin anomaly diagnosis : Json) :
    Lambda Unit := do
  match world.topicArn with
  | none => Program.throw (.keyError (lit "OPERATOR_SNS_TOPIC_ARN"))
  | some topicArn =>
    let signalName ← Program.ofExcept (item anomaly (lit "signal_name"))
    let subject := lit "[CRITICAL] Vehicle " ++ python.format uin ++ lit " — " ++
      python.format signalName ++ lit " anomaly"
    Program.emit fun _ =>
      .alerted topicArn subject (operatorMessage uin anomaly diagnosis) world.snsOk
    if world.snsOk then pure () else Program.throw .clientError

structure Response where
  statusCode : Nat
  body : Str
deriving DecidableEq

/-- The body of the `try`. The argument of `event.get` is evaluated first. -/
def diagnose (python : Python) (world : World) (event : Json) : Lambda Response := do
  let payload ← Program.ofExcept (get event (lit "payload") (.string [0x7B, 0x7D]))
  let anomaly ← Program.ofExcept (python.loadsValue payload)
  let ownUin ← Program.ofExcept (get anomaly (lit "uin") (.string (lit "UNKNOWN")))
  let uin ← Program.ofExcept (get event (lit "uin") ownUin)
  let signalName ← Program.ofExcept (get anomaly (lit "signal_name") (.string []))
  let context ← Program.ofExcept (retrieveContext signalName)
  let llmRaw ← callLlm python world anomaly context
  let reply ← Program.ofExcept (python.loadsValue llmRaw)
  let withDtc ← Program.ofExcept (setItem reply (lit "dtc") (.string context.dtc))
  let diagnosis ← Program.ofExcept (setItem withDtc (lit "asil") (.string context.asil))
  let severity ← Program.ofExcept (get anomaly (lit "severity") .null)
  let escalate ← Program.ofExcept (get diagnosis (lit "escalate_human") .null)
  if equalsText severity (lit "CRITICAL") || truthy escalate then
    alertHumanOperator python world uin anomaly diagnosis
    return ⟨200, lit "Escalated to human operator"⟩
  else
    publishDiagnosis python world uin diagnosis
    return ⟨200, python.dumps diagnosis⟩

def lambdaHandler (python : Python) (world : World) (event : Json) : Lambda Response :=
  Program.tryCatch (diagnose python world event)
    fun e => pure ⟨500, python.message e⟩

end SdvGateway.Cloud.DiagnosticAgent

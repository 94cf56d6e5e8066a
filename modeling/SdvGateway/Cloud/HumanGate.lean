import SdvGateway.Cloud.DiagnosticAgent
import SdvGateway.Common.Convert

/-! The human gate of the diagnostic Lambda. Whatever the event is, the model replies
and the services do, one gate decides between the operator and the vehicle. -/
namespace SdvGateway.Cloud.HumanGate
open Common Library Python DiagnosticAgent

def isDelivery : Effect → Bool
  | .invoked _ => false
  | .alerted _ _ _ _ | .published _ _ _ => true

def anomalyOf (python : Python) (event : Json) : Except PyError Json := do
  python.loadsValue (← get event (lit "payload") (.string [0x7B, 0x7D]))

def contextFor (anomaly : Json) : Except PyError Context := do
  retrieveContext (← get anomaly (lit "signal_name") (.string []))

def llmText (python : Python) (world : World) : Except PyError Json :=
  match world.bedrock with
  | none => .error .clientError
  | some body => do
    let result ← python.loads body
    item (← first (← item result (lit "content"))) (lit "text")

def replyOf (python : Python) (world : World) : Except PyError Json := do
  python.loadsValue (← llmText python world)

def annotate (reply : Json) (context : Context) : Except PyError Json := do
  setItem (← setItem reply (lit "dtc") (.string context.dtc)) (lit "asil") (.string context.asil)

structure Case where
  anomaly : Json
  context : Context
  reply : Json
  diagnosis : Json
  severity : Json
  escalate : Json

structure Considered (python : Python) (world : World) (event : Json) (c : Case) : Prop where
  anomaly : anomalyOf python event = .ok c.anomaly
  context : contextFor c.anomaly = .ok c.context
  reply : replyOf python world = .ok c.reply
  diagnosis : annotate c.reply c.context = .ok c.diagnosis
  severity : get c.anomaly (lit "severity") .null = .ok c.severity
  escalate : get c.diagnosis (lit "escalate_human") .null = .ok c.escalate

def Case.gated (c : Case) : Bool := equalsText c.severity (lit "CRITICAL") || truthy c.escalate

inductive Diagnosed (python : Python) (world : World) (event : Json) :
    Execution PyError Unit Effect Response → Prop
  | failed (e : PyError) (trace : List Effect)
      (hquiet : ∀ effect ∈ trace, isDelivery effect = false) :
      Diagnosed python world event ⟨.error e, (), trace⟩
  | escalated (c : Case) (h : Considered python world event c) (hgate : c.gated = true)
      (trace : List Effect) (hquiet : ∀ effect ∈ trace, isDelivery effect = false) (uin : Json)
      (response : Response) :
      Diagnosed python world event
        (((alertHumanOperator python world uin c.anomaly c.diagnosis >>= fun _ =>
          pure response) : Lambda Response) () |>.after trace)
  | published (c : Case) (h : Considered python world event c) (hgate : c.gated = false)
      (trace : List Effect) (hquiet : ∀ effect ∈ trace, isDelivery effect = false) (uin : Json)
      (response : Response) :
      Diagnosed python world event
        (((publishDiagnosis python world uin c.diagnosis >>= fun _ =>
          pure response) : Lambda Response) () |>.after trace)

private theorem callLlm_spec (python : Python) (world : World) (anomaly : Json)
    (context : Context) :
    let run := callLlm python world anomaly context ()
    (∀ effect ∈ run.trace, isDelivery effect = false) ∧
      ∀ text, run.outcome = .ok text → llmText python world = .ok text := by
  unfold callLlm
  apply Program.ofExcept_bind_rule (P := fun run =>
    (∀ effect ∈ run.trace, isDelivery effect = false) ∧
      ∀ text, run.outcome = .ok text → llmText python world = .ok text)
  · intro e _
    simp
  · intro prompt _
    rw [Program.bind_ok (Program.emit_apply _ _)]
    cases hbedrock : world.bedrock with
    | none => simp [Program.throw, Execution.after, isDelivery]
    | some body =>
      refine ⟨by simp [Program.ofExcept, Execution.after, isDelivery], fun text htext => ?_⟩
      rw [llmText, hbedrock]
      exact htext

theorem Diagnosed.of_bind {python : Python} {world : World} {event : Json} {trace : List Effect}
    (hquiet : ∀ effect ∈ trace, isDelivery effect = false) {x : Except PyError α}
    {next : α → Lambda Response}
    (hok : ∀ a, x = .ok a → Diagnosed python world event ((next a ()).after trace)) :
    Diagnosed python world event (((Program.ofExcept x >>= next) ()).after trace) := by
  apply Program.ofExcept_bind_rule (P := fun run => Diagnosed python world event (run.after trace))
  · intro e _
    exact .failed e (trace ++ []) (by simpa using hquiet)
  · exact hok

theorem diagnose_diagnosed (python : Python) (world : World) (event : Json) :
    Diagnosed python world event (diagnose python world event ()) := by
  have hnone : ∀ effect ∈ ([] : List Effect), isDelivery effect = false := by simp
  have hstart : diagnose python world event () =
      (diagnose python world event ()).after [] := rfl
  rw [hstart, diagnose]
  apply Diagnosed.of_bind hnone
  intro payload hpayload
  apply Diagnosed.of_bind hnone
  intro anomaly hanomaly
  apply Diagnosed.of_bind hnone
  intro ownUin _
  apply Diagnosed.of_bind hnone
  intro uin _
  apply Diagnosed.of_bind hnone
  intro signalName hsignal
  apply Diagnosed.of_bind hnone
  intro context hcontext
  have hllm := callLlm_spec python world anomaly context
  apply Program.bind_rule (P := fun run => Diagnosed python world event (run.after []))
  · intro e s' trace hrun
    rw [hrun] at hllm
    exact .failed e trace hllm.1
  · intro text s' trace hrun
    rw [hrun] at hllm
    obtain ⟨hquiet, htext⟩ := hllm
    -- the first calls have been made, and none of them told anyone
    apply Diagnosed.of_bind hquiet
    intro reply hreply
    apply Diagnosed.of_bind hquiet
    intro withDtc hdtc
    apply Diagnosed.of_bind hquiet
    intro diagnosis hasil
    apply Diagnosed.of_bind hquiet
    intro severity hseverity
    apply Diagnosed.of_bind hquiet
    intro escalate hescalate
    have hconsidered : Considered python world event
        ⟨anomaly, context, reply, diagnosis, severity, escalate⟩ :=
      { anomaly := (bind_eq_ok _ _ _).mpr ⟨payload, hpayload, hanomaly⟩
        context := (bind_eq_ok _ _ _).mpr ⟨signalName, hsignal, hcontext⟩
        reply := (bind_eq_ok _ _ _).mpr ⟨text, htext text rfl, hreply⟩
        diagnosis := (bind_eq_ok _ _ _).mpr ⟨withDtc, hdtc, hasil⟩
        severity := hseverity
        escalate := hescalate }
    split
    · next hgate => exact .escalated _ hconsidered hgate trace hquiet uin _
    · next hgate =>
      exact .published _ hconsidered (Bool.eq_false_iff.mpr hgate) trace hquiet uin _

theorem alertHumanOperator_trace (python : Python) (world : World) (uin anomaly diagnosis : Json) :
    (alertHumanOperator python world uin anomaly diagnosis ()).trace = [] ∨
      ∃ topicArn subject message,
        (alertHumanOperator python world uin anomaly diagnosis ()).trace =
          [Effect.alerted topicArn subject message world.snsOk] := by
  unfold alertHumanOperator
  cases world.topicArn with
  | none => exact .inl rfl
  | some topicArn =>
    dsimp only
    cases hname : item anomaly (lit "signal_name") with
    | error e =>
      rw [Program.ofExcept_bind_error rfl]
      exact .inl rfl
    | ok signalName =>
      right
      rw [Program.ofExcept_bind_ok rfl, Program.bind_ok (Program.emit_apply _ _)]
      cases world.snsOk with
      | true => exact ⟨topicArn, _, _, rfl⟩
      | false => exact ⟨topicArn, _, _, rfl⟩

theorem setItem_eq_ok {j after : Json} {key : Str} {value : Json}
    (h : setItem j key value = .ok after) :
    ∃ members, j = .object members ∧ after = .object (replaceMember key value members) := by
  cases j with
  | object members =>
    cases h
    exact ⟨members, rfl, rfl⟩
  | _ => cases h

theorem item_setItem {j after : Json} {key : Str} {value : Json}
    (h : setItem j key value = .ok after) :
    item after key = .ok value := by
  obtain ⟨members, rfl, rfl⟩ := setItem_eq_ok h
  simp only [item, member?_replaceMember]

theorem item_setItem_of_ne {j after : Json} {key other : Str} {value : Json}
    (h : setItem j key value = .ok after) (hne : key ≠ other) :
    item after other = item j other := by
  obtain ⟨members, rfl, rfl⟩ := setItem_eq_ok h
  simp only [item, member?_replaceMember_of_ne hne]

private theorem get_setItem_of_ne {j after : Json} {key other : Str} {value : Json}
    (h : setItem j key value = .ok after) (hne : key ≠ other) (default : Json) :
    Python.get after other default = Python.get j other default := by
  obtain ⟨members, rfl, rfl⟩ := setItem_eq_ok h
  simp only [Python.get, member?_replaceMember_of_ne hne]

theorem Considered.diagnosis_spec {python : Python} {world : World} {event : Json} {c : Case}
    (h : Considered python world event c) :
    item c.diagnosis (lit "dtc") = .ok (.string c.context.dtc) ∧
      item c.diagnosis (lit "asil") = .ok (.string c.context.asil) ∧
      Python.get c.reply (lit "escalate_human") .null = .ok c.escalate := by
  have hne : lit "asil" ≠ lit "dtc" ∧ lit "asil" ≠ lit "escalate_human" ∧
      lit "dtc" ≠ lit "escalate_human" := by decide
  obtain ⟨withDtc, hdtc, hasil⟩ := (bind_eq_ok _ _ _).mp h.diagnosis
  refine ⟨?_, item_setItem hasil, ?_⟩
  · rw [item_setItem_of_ne hasil hne.1]
    exact item_setItem hdtc
  · rw [← get_setItem_of_ne hdtc hne.2.2, ← get_setItem_of_ne hasil hne.2.1]
    exact h.escalate

private theorem lambdaHandler_trace (python : Python) (world : World) (event : Json) :
    (lambdaHandler python world event ()).trace = (diagnose python world event ()).trace := by
  unfold lambdaHandler
  cases hrun : diagnose python world event () with
  | mk outcome s trace =>
    cases outcome with
    | ok response => rw [Program.tryCatch_ok hrun]
    | error e =>
      rw [Program.tryCatch_error hrun]
      exact List.append_nil trace

/-- What a run told to whom: nobody, the operator about a gated case, or the vehicle
about a case that is not gated. -/
inductive Told (python : Python) (world : World) (event : Json) : List Effect → Prop
  | nobody (trace : List Effect) (hquiet : ∀ effect ∈ trace, isDelivery effect = false) :
      Told python world event trace
  | operator (trace : List Effect) (hquiet : ∀ effect ∈ trace, isDelivery effect = false)
      (topicArn subject : Str) (message : Json) :
      Told python world event (trace ++ [.alerted topicArn subject message world.snsOk])
  | vehicle (trace : List Effect) (hquiet : ∀ effect ∈ trace, isDelivery effect = false)
      (c : Case) (h : Considered python world event c) (hgate : c.gated = false) (topic : Str)
      (payload : Json)
      (hpayload : setItem c.diagnosis (lit "timestamp") (.string world.now) = .ok payload) :
      Told python world event (trace ++ [.published topic payload world.iotOk])

theorem lambdaHandler_told (python : Python) (world : World) (event : Json) :
    Told python world event (lambdaHandler python world event ()).trace := by
  rw [lambdaHandler_trace]
  have h := diagnose_diagnosed python world event
  generalize diagnose python world event () = run at h
  cases h with
  | failed e trace hquiet => exact .nobody trace hquiet
  | escalated c h hgate trace hquiet uin response =>
    rw [Execution.after, Program.trace_bind_pure]
    rcases alertHumanOperator_trace python world uin c.anomaly c.diagnosis with
      hnone | ⟨topicArn, subject, message, hone⟩
    · rw [hnone, List.append_nil]
      exact .nobody trace hquiet
    · rw [hone]
      exact .operator trace hquiet topicArn subject message
  | published c h hgate trace hquiet uin response =>
    rw [Execution.after, Program.trace_bind_pure]
    cases hset : setItem c.diagnosis (lit "timestamp") (.string world.now) with
    | error e =>
      rw [publishDiagnosis_error hset, List.append_nil]
      exact .nobody trace hquiet
    | ok payload =>
      rw [publishDiagnosis_ok hset]
      exact .vehicle trace hquiet c h hgate _ payload hset

/-- The anomaly is not critical, the model does not ask for a human, and the payload has
the entries of the knowledge base for the signal. -/
def Released (python : Python) (world : World) (event payload : Json) : Prop :=
  ∃ anomaly context reply severity escalate,
    anomalyOf python event = .ok anomaly ∧ contextFor anomaly = .ok context ∧
    replyOf python world = .ok reply ∧
    Python.get anomaly (lit "severity") .null = .ok severity ∧
    equalsText severity (lit "CRITICAL") = false ∧
    Python.get reply (lit "escalate_human") .null = .ok escalate ∧ truthy escalate = false ∧
    item payload (lit "dtc") = .ok (.string context.dtc) ∧
    item payload (lit "asil") = .ok (.string context.asil)

theorem Considered.released {python : Python} {world : World} {event payload : Json} {c : Case}
    (h : Considered python world event c) (hgate : c.gated = false)
    (hpayload : setItem c.diagnosis (lit "timestamp") (.string world.now) = .ok payload) :
    Released python world event payload := by
  have hstamp : lit "timestamp" ≠ lit "dtc" ∧ lit "timestamp" ≠ lit "asil" := by decide
  obtain ⟨hdtc, hasil, hescalate⟩ := h.diagnosis_spec
  obtain ⟨hsevere, hfalsy⟩ := Bool.or_eq_false_iff.mp hgate
  refine ⟨c.anomaly, c.context, c.reply, c.severity, c.escalate, h.anomaly, h.context, h.reply,
    h.severity, hsevere, hescalate, hfalsy, ?_, ?_⟩
  · rw [item_setItem_of_ne hpayload hstamp.1, hdtc]
  · rw [item_setItem_of_ne hpayload hstamp.2, hasil]

theorem Told.released {python : Python} {world : World} {event : Json} {trace : List Effect}
    (h : Told python world event trace) {topic : Str} {payload : Json} {ok : Bool}
    (hpublished : Effect.published topic payload ok ∈ trace) :
    Released python world event payload := by
  cases h with
  | nobody _ hquiet => exact absurd (hquiet _ hpublished) (by simp [isDelivery])
  | operator quiet hquiet topicArn subject message =>
    rcases List.mem_append.mp hpublished with hmem | hmem
    · exact absurd (hquiet _ hmem) (by simp [isDelivery])
    · simp at hmem
  | vehicle quiet hquiet c hconsidered hgate topic' payload' hpayload =>
    rcases List.mem_append.mp hpublished with hmem | hmem
    · exact absurd (hquiet _ hmem) (by simp [isDelivery])
    · obtain ⟨_, rfl, _⟩ := Effect.published.inj (List.mem_singleton.mp hmem)
      exact hconsidered.released hgate hpayload

theorem Told.at_most_one {python : Python} {world : World} {event : Json} {trace : List Effect}
    (h : Told python world event trace) : trace.countP isDelivery ≤ 1 := by
  cases h with
  | nobody _ hquiet =>
    rw [List.countP_eq_zero.mpr (by simpa using hquiet)]
    exact Nat.zero_le _
  | operator quiet hquiet | vehicle quiet hquiet =>
    rw [List.countP_append, List.countP_eq_zero.mpr (by simpa using hquiet)]
    simp [isDelivery]

/-- A diagnosis reaches the vehicle only when the anomaly is not critical and the model
does not ask for a human, with the entries of the knowledge base. No more than one of the
operator and the vehicle is told, so nothing follows a failed alert. -/
theorem human_gate (python : Python) (world : World) (event : Json) :
    let trace := (lambdaHandler python world event ()).trace
    (∀ topic payload ok, Effect.published topic payload ok ∈ trace →
        Released python world event payload) ∧
      trace.countP isDelivery ≤ 1 ∧
      ∀ before topicArn subject message after,
        trace = before ++ .alerted topicArn subject message false :: after →
        ∀ topic payload ok, Effect.published topic payload ok ∉ after := by
  intro trace
  have htold : Told python world event trace := lambdaHandler_told python world event
  have hone := htold.at_most_one
  refine ⟨fun _ _ _ => htold.released, hone, ?_⟩
  intro before topicArn subject message after hsplit topic payload ok hafter
  have hpositive : 0 < after.countP isDelivery := List.countP_pos_iff.mpr ⟨_, hafter, rfl⟩
  have halert : isDelivery (.alerted topicArn subject message false) = true := rfl
  rw [hsplit, List.countP_append, List.countP_cons_of_pos halert] at hone
  omega

end SdvGateway.Cloud.HumanGate

import SdvGateway.Cloud.DiagnosticAgent
import SdvGateway.Cloud.Rules
import SdvGateway.Cloud.SendCommand
import SdvGateway.Cloud.Thing
import SdvGateway.Gateway.AnomalyDetector
import SdvGateway.Gateway.CommandHandler
import SdvGateway.Gateway.OtaAgent
import SdvGateway.Gateway.TelemetryPublisher

/-! The topics of a vehicle, which eight files write down on their own: what the gateway
publishes and subscribes, what the cloud sends, what the policy allows and what the rules
listen to. -/
namespace SdvGateway.Cloud.Topics
open Common Library Thing Rules

/-- A digit, a letter, or a byte of a letter beyond ASCII. -/
def isLetterOrDigit (byte : UInt8) : Bool :=
  (0x30 ≤ byte && byte ≤ 0x39) || (0x41 ≤ byte && byte ≤ 0x5A) ||
    (0x61 ≤ byte && byte ≤ 0x7A) || 0x80 ≤ byte

structure Uin where
  text : Str
  lettersAndDigits : ∀ byte ∈ text, isLetterOrDigit byte = true

theorem Uin.notMem (uin : Uin) {byte : UInt8} (h : isLetterOrDigit byte = false) :
    byte ∉ uin.text := by
  intro hmem
  rw [uin.lettersAndDigits byte hmem] at h
  cases h

inductive Stream where
  | telemetry
  | status
  | alert

/-- What the gateway of a vehicle hands to the client in its three publishing functions. -/
inductive PublishesTo (uin : Str) : Stream → Str → Prop
  | telemetry (env : Gateway.TelemetryPublisher.Env) (henv : env.uin = uin)
      (s : Gateway.TelemetryPublisher.State) (timing : Gateway.TelemetryPublisher.Timing)
      (message : Message) (ok : Bool)
      (hsent : (Gateway.TelemetryPublisher.publishNow env s timing).1.sent = .ok (message, ok)) :
      PublishesTo uin .telemetry message.topic
  | status (env : Gateway.OtaAgent.Env) (henv : env.uin = uin) (o : Gateway.OtaAgent.Outcomes)
      (correlationId : Str) (status : OtaStatus) (files : Gateway.OtaAgent.Files)
      (moment : Gateway.OtaAgent.Moment)
      (hmoment : moment ∈
        (Gateway.OtaAgent.reportStatus env o correlationId status files).trace)
      (reported : Str) (what : OtaStatus) (message : Message) (ok : Bool)
      (hevent : moment.event = .report reported what message ok) :
      PublishesTo uin .status message.topic
  | alert (env : Gateway.AnomalyDetector.Env) (henv : env.uin = uin) (now : Int)
      (published : Bool) (signal : DecodedSignal) (score : Single)
      (alert : Gateway.AnomalyDetector.Alert)
      (hsent : Gateway.AnomalyDetector.publishAlert env now published signal score = .ok alert) :
      PublishesTo uin .alert alert.message.topic

def subscriptions (uin : Str) : List Str :=
  [Gateway.CommandHandler.topic uin, Gateway.CommandHandler.diagnosisTopic uin]

/-- What the cloud sends to a vehicle. -/
inductive SentTo (python : Python) (world : DiagnosticAgent.World) (uin : Str) : Str → Prop
  | command (payload : Json) :
      SentTo python world uin (SendCommand.publishToIot python uin payload).topic
  | diagnosis (diagnosis : Json) (topic : Str) (payload : Json) (ok : Bool)
      (hsent : .published topic payload ok ∈
        (DiagnosticAgent.publishDiagnosis python world (.string uin) diagnosis ()).trace) :
      SentTo python world uin topic

def topicOf (uin : Str) : Stream → Str
  | .telemetry => Gateway.TelemetryPublisher.telemetryTopic uin
  | .status => Gateway.OtaAgent.statusTopic uin
  | .alert => Gateway.AnomalyDetector.alertTopic uin

theorem publishesTo_eq {uin topic : Str} {stream : Stream} (h : PublishesTo uin stream topic) :
    topic = topicOf uin stream := by
  cases h with
  | telemetry env henv s timing message ok hsent =>
    unfold Gateway.TelemetryPublisher.publishNow at hsent
    dsimp only at hsent
    split at hsent
    · cases hsent
    · cases hsent
      rw [henv, topicOf]
  | status env henv o correlationId status files moment hmoment reported what message ok hevent =>
    unfold Gateway.OtaAgent.reportStatus at hmoment
    cases hdump : env.json.dump (Gateway.OtaAgent.statusJson correlationId status) with
    | ok text =>
      rw [hdump] at hmoment
      obtain rfl := List.mem_singleton.mp hmoment
      cases hevent
      rw [henv, topicOf]
    | error e =>
      rw [hdump] at hmoment
      cases hmoment
  | alert env henv now published signal score alert hsent =>
    simp only [Gateway.AnomalyDetector.publishAlert, bind, Except.bind] at hsent
    split at hsent
    · cases hsent
    · cases hsent
      rw [henv, topicOf]

theorem sentTo_iff (python : Python) (world : DiagnosticAgent.World) (uin topic : Str) :
    SentTo python world uin topic ↔ topic ∈ subscriptions uin := by
  simp only [subscriptions, List.mem_cons, List.not_mem_nil, or_false]
  constructor
  · intro h
    cases h with
    | command payload => exact .inl rfl
    | diagnosis diagnosis topic payload ok hsent =>
      right
      cases hset : Python.setItem diagnosis (lit "timestamp") (.string world.now) with
      | error e =>
        rw [DiagnosticAgent.publishDiagnosis_error hset] at hsent
        cases hsent
      | ok stamped =>
        rw [DiagnosticAgent.publishDiagnosis_ok hset] at hsent
        cases List.mem_singleton.mp hsent
        rfl
  · rintro (rfl | rfl)
    · exact .command (.object [])
    · have hsent :
          DiagnosticAgent.publishDiagnosis python world (.string uin) (.object []) () = _ :=
        DiagnosticAgent.publishDiagnosis_ok rfl _
      exact .diagnosis (.object []) _ _ _ (by rw [hsent]; exact List.mem_singleton_self _)

def topicsOf (uin : Str) : List Str :=
  [topicOf uin .telemetry, topicOf uin .status, topicOf uin .alert] ++ subscriptions uin

structure Template where
  before : Str
  after : Str
deriving DecidableEq

def Template.fill (template : Template) (uin : Str) : Str :=
  template.before ++ uin ++ template.after

def templates : List Template := [
  ⟨lit "sdv/telemetry/from/uin/", []⟩,
  ⟨lit "sdv/ota/from/uin/", lit "/status"⟩,
  ⟨lit "sdv/Analytics/from/uin/", lit "/anomaly"⟩,
  ⟨lit "sdv/commands/to/uin/", []⟩,
  ⟨lit "sdv/Analytics/to/uin/", lit "/diagnosis"⟩]

theorem topicsOf_eq (uin : Str) : topicsOf uin = templates.map (·.fill uin) := by
  simp [topicsOf, topicOf, subscriptions, templates, Template.fill,
    Gateway.TelemetryPublisher.telemetryTopic, Gateway.OtaAgent.statusTopic,
    Gateway.AnomalyDetector.alertTopic, Gateway.CommandHandler.topic,
    Gateway.CommandHandler.diagnosisTopic]

def kinds : List Str := [lit "topic/", lit "topicfilter/"]

def Plain (text : Str) : Prop := 0x3A ∉ text ∧ Wildcard.Literal 0x2A 0x3F text

instance : DecidablePred Plain := fun _ => inferInstanceAs (Decidable (_ ∧ _))

theorem Plain.append {text more : Str} (h : Plain text) (hmore : Plain more) :
    Plain (text ++ more) :=
  ⟨by simp [h.1, hmore.1], h.2.append hmore.2⟩

theorem Uin.plain (uin : Uin) : Plain uin.text :=
  ⟨uin.notMem (by decide), uin.notMem (by decide), uin.notMem (by decide)⟩

private theorem grant_plain {grant : Grant} (h : grant ∈ grants) (uin : Uin) :
    Plain (grant.path uin.text) := by
  have hparts : ∀ grant ∈ grants, Plain grant.before ∧ Plain grant.after := by decide +kernel
  exact ((hparts grant h).1.append uin.plain).append (hparts grant h).2

theorem topic_plain {uin : Uin} {topic kind : Str} (htopic : topic ∈ topicsOf uin.text)
    (hkind : kind ∈ kinds) : Plain (kind ++ topic) := by
  have hkinds : ∀ kind ∈ kinds, Plain kind := by decide +kernel
  have hparts : ∀ template ∈ templates, Plain template.before ∧ Plain template.after := by
    decide +kernel
  rw [topicsOf_eq] at htopic
  obtain ⟨template, htemplate, rfl⟩ := List.mem_map.mp htopic
  obtain ⟨hbefore, hafter⟩ := hparts template htemplate
  exact (hkinds kind hkind).append ((hbefore.append uin.plain).append hafter)

theorem allows_iff (account : Account) (uin : Uin) (action : Action) {path : Str}
    (hpath : Plain path) :
    allows (buildPolicyDocument uin.text) action (account.arn path) = true ↔
      ∃ grant ∈ grants, grant.action = action ∧ path = grant.path uin.text := by
  rw [allows_buildPolicyDocument]
  refine exists_congr fun grant => and_congr_right fun hgrant => and_congr_right fun _ => ?_
  have hplain := grant_plain hgrant uin
  exact resourceMatches_arn account hplain.2 hplain.1 hpath.1

/-- A granted path of one vehicle is no path of a topic of another: where the texts
before the uins differ, neither begins with the other. -/
theorem uin_of_granted {uin other kind topic : Str} {grant : Grant} (hgrant : grant ∈ grants)
    (hkind : kind ∈ kinds) (htopic : topic ∈ topicsOf other)
    (h : kind ++ topic = grant.path uin) : other = uin := by
  have hapart : ∀ grant ∈ grants, ∀ kind ∈ kinds, ∀ template ∈ templates,
      (kind ++ template.before = grant.before ∧ template.after = grant.after) ∨
        (¬kind ++ template.before <+: grant.before ∧
          ¬grant.before <+: kind ++ template.before) := by decide +kernel
  rw [topicsOf_eq] at htopic
  obtain ⟨template, htemplate, rfl⟩ := List.mem_map.mp htopic
  have hfilled : (kind ++ template.before) ++ (other ++ template.after) =
      grant.before ++ (uin ++ grant.after) := by
    simpa only [Template.fill, Grant.path, List.append_assoc] using h
  rcases hapart grant hgrant kind hkind template htemplate with ⟨hbefore, hafter⟩ | ⟨hnot, hnot'⟩
  · rw [hbefore, hafter] at hfilled
    exact List.append_cancel_right (List.append_cancel_left hfilled)
  · have hprefix : kind ++ template.before <+: grant.before ++ (uin ++ grant.after) :=
      hfilled ▸ List.prefix_append _ _
    rcases List.prefix_or_prefix_of_prefix hprefix (List.prefix_append _ _) with hle | hle
    · exact absurd hle hnot
    · exact absurd hle hnot'

theorem publish_granted (uin : Str) (stream : Stream) :
    ∃ grant ∈ grants, grant.action = .publish ∧
      lit "topic/" ++ topicOf uin stream = grant.path uin := by
  cases stream with
  | telemetry =>
    refine ⟨⟨.publish, lit "topic/sdv/telemetry/from/uin/", []⟩, by simp [grants], rfl, ?_⟩
    rw [Grant.path, List.append_nil]
    rfl
  | status =>
    exact ⟨⟨.publish, lit "topic/sdv/ota/from/uin/", lit "/status"⟩, by simp [grants], rfl, rfl⟩
  | alert =>
    exact ⟨⟨.publish, lit "topic/sdv/Analytics/from/uin/", lit "/anomaly"⟩, by simp [grants], rfl,
      rfl⟩

theorem subscribe_granted {uin topic : Str} (h : topic ∈ subscriptions uin) :
    (∃ grant ∈ grants, grant.action = .subscribe ∧
        lit "topicfilter/" ++ topic = grant.path uin) ∧
      ∃ grant ∈ grants, grant.action = .receive ∧ lit "topic/" ++ topic = grant.path uin := by
  simp only [subscriptions, List.mem_cons, List.not_mem_nil, or_false] at h
  rcases h with rfl | rfl
  · constructor
    · refine ⟨⟨.subscribe, lit "topicfilter/sdv/commands/to/uin/", []⟩, by simp [grants], rfl, ?_⟩
      rw [Grant.path, List.append_nil]
      rfl
    · refine ⟨⟨.receive, lit "topic/sdv/commands/to/uin/", []⟩, by simp [grants], rfl, ?_⟩
      rw [Grant.path, List.append_nil]
      rfl
  · exact ⟨⟨⟨.subscribe, lit "topicfilter/sdv/Analytics/to/uin/", lit "/diagnosis"⟩,
        by simp [grants], rfl, rfl⟩,
      ⟨⟨.receive, lit "topic/sdv/Analytics/to/uin/", lit "/diagnosis"⟩, by simp [grants], rfl, rfl⟩⟩

theorem telemetry_listens (uin : Uin) :
    createTelemetryRule.listens (topicOf uin.text .telemetry) = true := by
  have hfilter : createTelemetryRule.filter =
      lit "sdv/telemetry/from/uin" ++ 0x2F :: [0x2B] := rfl
  have htopic : topicOf uin.text .telemetry =
      lit "sdv/telemetry/from/uin" ++ 0x2F :: uin.text := rfl
  rw [TopicRule.listens, hfilter, htopic]
  exact TopicFilter.matchesTopic_last (by decide) (uin.notMem (by decide))

theorem alert_listens (lambdaArn : Option Str) (uin : Uin) :
    (createAnomalyRule lambdaArn).listens (topicOf uin.text .alert) = true := by
  have hfilter : (createAnomalyRule lambdaArn).filter =
      lit "sdv/Analytics/from/uin" ++ 0x2F :: 0x2B :: 0x2F :: lit "anomaly" := rfl
  have htopic : topicOf uin.text .alert =
      lit "sdv/Analytics/from/uin" ++ 0x2F :: (uin.text ++ 0x2F :: lit "anomaly") := rfl
  rw [TopicRule.listens, hfilter, htopic]
  exact TopicFilter.matchesTopic_between (by decide) (uin.notMem (by decide))

theorem topicOf_mem (uin : Str) (stream : Stream) : topicOf uin stream ∈ topicsOf uin := by
  cases stream <;> simp [topicsOf]

theorem not_allowed_of_other (account : Account) {uin other : Uin} (hne : other.text ≠ uin.text)
    {kind topic : Str} (hkind : kind ∈ kinds) (htopic : topic ∈ topicsOf other.text)
    (action : Action) :
    allows (buildPolicyDocument uin.text) action (account.arn (kind ++ topic)) = false := by
  rw [← Bool.not_eq_true, allows_iff account uin action (topic_plain htopic hkind)]
  rintro ⟨grant, hgrant, _, hpath⟩
  exact hne (uin_of_granted hgrant hkind htopic hpath)

/-- The gateway's topics are allowed by the policy of its own uin and heard by the rules,
the cloud sends to the topics that the gateway subscribes, and the topics of another
vehicle are not allowed. -/
theorem topics_agree_and_isolate (account : Account) (lambdaArn : Option Str) (python : Python)
    (world : DiagnosticAgent.World) (uin : Uin) :
    (∀ stream topic, PublishesTo uin.text stream topic →
        allows (buildPolicyDocument uin.text) .publish (account.topicArn topic) = true) ∧
      (∀ topic ∈ subscriptions uin.text,
        allows (buildPolicyDocument uin.text) .subscribe (account.topicFilterArn topic) = true ∧
          allows (buildPolicyDocument uin.text) .receive (account.topicArn topic) = true) ∧
      (∀ topic, PublishesTo uin.text .telemetry topic →
        createTelemetryRule.listens topic = true) ∧
      (∀ topic, PublishesTo uin.text .alert topic →
        (createAnomalyRule lambdaArn).listens topic = true) ∧
      (∀ topic, SentTo python world uin.text topic ↔ topic ∈ subscriptions uin.text) ∧
      ∀ other : Uin, other.text ≠ uin.text → ∀ topic,
        ((∃ stream, PublishesTo other.text stream topic) ∨ topic ∈ subscriptions other.text) →
        ∀ action,
          allows (buildPolicyDocument uin.text) action (account.topicArn topic) = false ∧
            allows (buildPolicyDocument uin.text) action (account.topicFilterArn topic) =
              false := by
  have htopicKind : lit "topic/" ∈ kinds := by simp [kinds]
  have hfilterKind : lit "topicfilter/" ∈ kinds := by simp [kinds]
  refine ⟨?_, ?_, ?_, ?_, sentTo_iff python world uin.text, ?_⟩
  · intro stream topic hpublishes
    rw [publishesTo_eq hpublishes]
    have hplain := topic_plain (topicOf_mem uin.text stream) htopicKind
    exact (allows_iff account uin .publish hplain).mpr (publish_granted uin.text stream)
  · intro topic hsubscribed
    have hmem : topic ∈ topicsOf uin.text := List.mem_append_right _ hsubscribed
    obtain ⟨hsubscribe, hreceive⟩ := subscribe_granted hsubscribed
    exact ⟨(allows_iff account uin .subscribe (topic_plain hmem hfilterKind)).mpr hsubscribe,
      (allows_iff account uin .receive (topic_plain hmem htopicKind)).mpr hreceive⟩
  · intro topic hpublishes
    rw [publishesTo_eq hpublishes]
    exact telemetry_listens uin
  · intro topic hpublishes
    rw [publishesTo_eq hpublishes]
    exact alert_listens lambdaArn uin
  · intro other hne topic huses action
    have hmem : topic ∈ topicsOf other.text := by
      rcases huses with ⟨stream, hpublishes⟩ | hsubscribed
      · rw [publishesTo_eq hpublishes]
        exact topicOf_mem other.text stream
      · exact List.mem_append_right _ hsubscribed
    exact ⟨not_allowed_of_other account hne htopicKind hmem action,
      not_allowed_of_other account hne hfilterKind hmem action⟩

end SdvGateway.Cloud.Topics

import SdvGateway.Cloud.Rules
import SdvGateway.Cloud.Thing
import SdvGateway.Gateway.TelemetryPublisher

/-! Whose records a vehicle can write. The policy restricts the topics, while the rules
take the key of a row from the payload. -/
namespace SdvGateway.Cloud.RecordOwnership
open Common Thing Rules Python

/-- The rows that a message writes when it is published with the certificate of a vehicle. -/
def written (account : Account) (engine : Engine) (lambdaArn : Option Str) (uin : Str)
    (message : Message) : List Row :=
  if allows (buildPolicyDocument uin) .publish (account.topicArn message.topic) then
    (rules lambdaArn).flatMap (·.rows engine message)
  else []

def payloadKeys (engine : Engine) (payload : Str) : Option Keys :=
  match engine.parse payload with
  | some (.object members) => keys? members
  | _ => none

theorem keys?_selected {lambdaArn : Option Str} {rule : TopicRule} (hrule : rule ∈ rules lambdaArn)
    (arrival : Int) (members : List (Str × Json)) :
    keys? (rule.selected arrival members) = keys? members := by
  have hne : lit "arrival_ts" ≠ lit "uin" ∧ lit "arrival_ts" ≠ lit "timestamp" := by decide
  simp only [rules, List.mem_cons, List.not_mem_nil, or_false] at hrule
  rcases hrule with rfl | rfl
  · simp [keys?, keyText, TopicRule.selected, createTelemetryRule,
      member?_replaceMember_of_ne hne.1, member?_replaceMember_of_ne hne.2]
  · simp [TopicRule.selected, createAnomalyRule]

theorem stores {lambdaArn : Option Str} {rule : TopicRule} (hrule : rule ∈ rules lambdaArn) :
    ∃ table, RuleAction.dynamoDBv2 table ∈ rule.actions := by
  simp only [rules, List.mem_cons, List.not_mem_nil, or_false] at hrule
  rcases hrule with rfl | rfl
  · exact ⟨tableTelemetry, by simp [createTelemetryRule]⟩
  · exact ⟨tableAnomalies, by simp [createAnomalyRule]⟩

private theorem keys_of_mem_put {rule : TopicRule} {item : List (Str × Json)} {row : Row}
    (h : row ∈ rule.put item) : keys? item = some row.keys := by
  obtain ⟨action, _, haction⟩ := List.mem_filterMap.mp h
  cases action with
  | dynamoDBv2 table =>
    obtain ⟨keys, hkeys, rfl⟩ := Option.map_eq_some_iff.mp haction
    exact hkeys
  | lambda functionArn => cases haction

private theorem keys_of_mem_rows {lambdaArn : Option Str} {rule : TopicRule}
    (hrule : rule ∈ rules lambdaArn) {engine : Engine} {message : Message} {row : Row}
    (h : row ∈ rule.rows engine message) :
    payloadKeys engine message.payload = some row.keys := by
  unfold TopicRule.rows at h
  unfold payloadKeys
  split at h
  · split at h
    · next members hparse =>
      have hkeys := keys_of_mem_put h
      rw [keys?_selected hrule] at hkeys
      simpa [hparse] using hkeys
    · cases h
  · cases h

theorem exists_row {lambdaArn : Option Str} {rule : TopicRule} (hrule : rule ∈ rules lambdaArn)
    {engine : Engine} {message : Message} (hlistens : rule.listens message.topic = true)
    {keys : Keys} (hkeys : payloadKeys engine message.payload = some keys) :
    ∃ row ∈ rule.rows engine message, row.keys = keys := by
  unfold payloadKeys at hkeys
  split at hkeys
  · next members hparse =>
    obtain ⟨table, htable⟩ := stores hrule
    rw [← keys?_selected hrule engine.arrival members] at hkeys
    refine ⟨⟨table, keys, rule.selected engine.arrival members⟩, ?_, rfl⟩
    simp only [TopicRule.rows, hlistens, if_true, hparse, TopicRule.put]
    exact List.mem_filterMap.mpr ⟨_, htable, by simp [hkeys]⟩
  · cases hkeys

/-- A vehicle writes only rows of its own exactly when the policy or the rules stop the
message, the payload cannot be stored, or the payload names the vehicle itself. -/
theorem rows_own_iff (account : Account) (engine : Engine) (lambdaArn : Option Str) (uin : Str)
    (message : Message) :
    (∀ row ∈ written account engine lambdaArn uin message, row.keys.uin = uin) ↔
      allows (buildPolicyDocument uin) .publish (account.topicArn message.topic) = false ∨
        (∀ rule ∈ rules lambdaArn, rule.listens message.topic = false) ∨
        ∀ keys ∈ payloadKeys engine message.payload, keys.uin = uin := by
  unfold written
  cases hallowed : allows (buildPolicyDocument uin) .publish (account.topicArn message.topic) with
  | false => simp
  | true =>
    simp only [if_true, Bool.true_eq_false, false_or]
    constructor
    · intro hown
      by_contra hneither
      push Not at hneither
      obtain ⟨⟨rule, hrule, hlistens⟩, keys, hkeys, hother⟩ := hneither
      obtain ⟨row, hrow, rfl⟩ := exists_row hrule (Bool.not_eq_false _ ▸ hlistens) hkeys
      exact hother (hown row (List.mem_flatMap.mpr ⟨rule, hrule, hrow⟩))
    · rintro hguard row hrow
      obtain ⟨rule, hrule, hrow⟩ := List.mem_flatMap.mp hrow
      rcases hguard with hsilent | hkeys
      · simp [TopicRule.rows, hsilent rule hrule] at hrow
      · exact hkeys _ (keys_of_mem_rows hrule hrow)

def sampleAccount : Account := ⟨lit "eu-west-1", lit "123456789012"⟩

def samplePayload : Str :=
  0x7B :: lit "\"uin\":\"V2\",\"timestamp\":\"2026-07-12T00:00:00Z\"" ++ [0x7D]

def sampleEngine : Engine where
  parse text :=
    if text = samplePayload then
      some (.object [(lit "uin", .string (lit "V2")),
        (lit "timestamp", .string (lit "2026-07-12T00:00:00Z"))])
    else none
  arrival := 1783814400000

/-- The vehicle `V1` publishes on its own telemetry topic, in the name of `V2`. -/
def sampleMessage : Message :=
  ⟨Gateway.TelemetryPublisher.telemetryTopic (lit "V1"), samplePayload⟩

theorem foreign_record_written :
    ¬∀ (account : Account) (engine : Engine) (lambdaArn : Option Str) (uin other : Str),
      uin ≠ other → ∀ message,
        allows (buildPolicyDocument uin) .publish (account.topicArn message.topic) = true →
        ∀ row ∈ written account engine lambdaArn uin message,
          row.keys.uin = uin ∧ row.keys.uin ≠ other := by
  intro hall
  have hallowed : allows (buildPolicyDocument (lit "V1")) .publish
      (sampleAccount.topicArn sampleMessage.topic) = true := by decide +kernel
  have hlistens : createTelemetryRule.listens sampleMessage.topic = true := by decide +kernel
  have hkeys : payloadKeys sampleEngine sampleMessage.payload =
      some ⟨lit "V2", lit "2026-07-12T00:00:00Z"⟩ := by decide +kernel
  have hrule : createTelemetryRule ∈ rules none := List.mem_cons_self
  obtain ⟨row, hrow, hrowkeys⟩ := exists_row hrule hlistens hkeys
  have hwritten : row ∈ written sampleAccount sampleEngine none (lit "V1") sampleMessage := by
    rw [written, hallowed]
    exact List.mem_flatMap.mpr ⟨_, hrule, hrow⟩
  have hforeign := (hall sampleAccount sampleEngine none (lit "V1") (lit "V2") (by decide)
    sampleMessage hallowed row hwritten).2
  exact hforeign (by rw [hrowkeys])

end SdvGateway.Cloud.RecordOwnership

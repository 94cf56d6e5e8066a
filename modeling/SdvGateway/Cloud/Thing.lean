import SdvGateway.Common.Text
import SdvGateway.Library.Wildcard

/-! The policy of a device's certificate, and what such a policy allows. -/
namespace SdvGateway.Cloud.Thing
open Common Library

inductive Effect where
  | allow
  | deny
deriving DecidableEq

inductive Action where
  | connect
  | publish
  | subscribe
  | receive
deriving DecidableEq

structure Statement where
  effect : Effect
  action : Action
  resources : List Str

/-- A resource of the policy: its region and its account are wildcards. -/
def anyArn (path : Str) : Str := lit "arn:aws:iot:*:*:" ++ path

def buildPolicyDocument (uin : Str) : List Statement := [
  { effect := .allow
    action := .connect
    resources := [anyArn (lit "client/sdv-gateway-" ++ uin)] },
  { effect := .allow
    action := .publish
    resources := [
      anyArn (lit "topic/sdv/telemetry/from/uin/" ++ uin),
      anyArn (lit "topic/sdv/commands/from/uin/" ++ uin ++ lit "/status"),
      anyArn (lit "topic/sdv/ota/from/uin/" ++ uin ++ lit "/status"),
      anyArn (lit "topic/sdv/Analytics/from/uin/" ++ uin ++ lit "/anomaly")] },
  { effect := .allow
    action := .subscribe
    resources := [
      anyArn (lit "topicfilter/sdv/commands/to/uin/" ++ uin),
      anyArn (lit "topicfilter/sdv/ota/to/uin/" ++ uin ++ lit "/manifest"),
      anyArn (lit "topicfilter/sdv/Analytics/to/uin/" ++ uin ++ lit "/diagnosis")] },
  { effect := .allow
    action := .receive
    resources := [
      anyArn (lit "topic/sdv/commands/to/uin/" ++ uin),
      anyArn (lit "topic/sdv/ota/to/uin/" ++ uin ++ lit "/manifest"),
      anyArn (lit "topic/sdv/Analytics/to/uin/" ++ uin ++ lit "/diagnosis")] }]

/-- `*` is any text and `?` any character. -/
def resourceMatches (pattern resource : Str) : Bool := Wildcard.accepts 0x2A 0x3F pattern resource

def Statement.covers (statement : Statement) (action : Action) (resource : Str) : Bool :=
  statement.action = action && statement.resources.any (resourceMatches · resource)

def allows (policy : List Statement) (action : Action) (resource : Str) : Bool :=
  (policy.any fun statement => statement.effect = .allow && statement.covers action resource) &&
    !policy.any fun statement => statement.effect = .deny && statement.covers action resource

structure Account where
  region : Str
  number : Str

def Account.arn (account : Account) (path : Str) : Str :=
  lit "arn:aws:iot:" ++ account.region ++ lit ":" ++ account.number ++ lit ":" ++ path

def Account.topicArn (account : Account) (topic : Str) : Str := account.arn (lit "topic/" ++ topic)

def Account.topicFilterArn (account : Account) (filter : Str) : Str :=
  account.arn (lit "topicfilter/" ++ filter)

/-- One of the policy's resources, around the uin. -/
structure Grant where
  action : Action
  before : Str
  after : Str
deriving DecidableEq

def Grant.path (grant : Grant) (uin : Str) : Str := grant.before ++ uin ++ grant.after

def grants : List Grant := [
  ⟨.connect, lit "client/sdv-gateway-", []⟩,
  ⟨.publish, lit "topic/sdv/telemetry/from/uin/", []⟩,
  ⟨.publish, lit "topic/sdv/commands/from/uin/", lit "/status"⟩,
  ⟨.publish, lit "topic/sdv/ota/from/uin/", lit "/status"⟩,
  ⟨.publish, lit "topic/sdv/Analytics/from/uin/", lit "/anomaly"⟩,
  ⟨.subscribe, lit "topicfilter/sdv/commands/to/uin/", []⟩,
  ⟨.subscribe, lit "topicfilter/sdv/ota/to/uin/", lit "/manifest"⟩,
  ⟨.subscribe, lit "topicfilter/sdv/Analytics/to/uin/", lit "/diagnosis"⟩,
  ⟨.receive, lit "topic/sdv/commands/to/uin/", []⟩,
  ⟨.receive, lit "topic/sdv/ota/to/uin/", lit "/manifest"⟩,
  ⟨.receive, lit "topic/sdv/Analytics/to/uin/", lit "/diagnosis"⟩]

theorem allows_buildPolicyDocument (uin : Str) (action : Action) (resource : Str) :
    allows (buildPolicyDocument uin) action resource = true ↔
      ∃ grant ∈ grants, grant.action = action ∧
        resourceMatches (anyArn (grant.path uin)) resource = true := by
  cases action <;> simp [allows, buildPolicyDocument, Statement.covers, grants, Grant.path]

theorem resourceMatches_arn {path path' : Str} (account : Account)
    (hliteral : Wildcard.Literal 0x2A 0x3F path) (hpath : (0x3A : UInt8) ∉ path)
    (hpath' : (0x3A : UInt8) ∉ path') :
    resourceMatches (anyArn path) (account.arn path') = true ↔ path' = path := by
  have hpattern : anyArn path =
      lit "arn:aws:iot:" ++ 0x2A :: (lit ":" ++ 0x2A :: (lit ":" ++ path)) := by
    rw [anyArn]
    rfl
  have hstart : Wildcard.Literal 0x2A 0x3F (lit "arn:aws:iot:") := by decide
  have hcolon : Wildcard.Literal 0x2A 0x3F (lit ":") := by decide
  rw [resourceMatches, hpattern, Wildcard.accepts_literal_append hstart]
  simp only [Wildcard.accepts_star, Wildcard.accepts_literal_append hcolon,
    Wildcard.accepts_literal hliteral]
  constructor
  · rintro ⟨rest, hrest, region, _, rfl, _, rfl, number, _, rfl, last, rfl, rfl⟩
    have hsep : lit ":" = [0x3A] := rfl
    have hends : (lit "arn:aws:iot:" ++ account.region ++ lit ":" ++ account.number) ++
        0x3A :: path' = (lit "arn:aws:iot:" ++ region ++ lit ":" ++ number) ++ 0x3A :: last := by
      simp only [Account.arn, hsep, List.append_assoc] at hrest ⊢
      exact hrest
    exact Wildcard.eq_of_append_cons_eq hends hpath' hpath
  · rintro rfl
    refine ⟨_, ?_, account.region, _, rfl, _, rfl, account.number, _, rfl, _, rfl, rfl⟩
    simp only [Account.arn, List.append_assoc]

end SdvGateway.Cloud.Thing

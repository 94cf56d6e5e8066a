import SdvGateway.Cloud.Python
import SdvGateway.Library.TopicFilter

/-! The rules that store what the vehicles publish. The key of a row is taken from the
stored object. -/
namespace SdvGateway.Cloud.Rules
open Common Library Python

def tableTelemetry : Str := lit "sdv_telemetry"

def tableAnomalies : Str := lit "sdv_anomalies"

/-- What stands between `SELECT` and `FROM`: `*`, or `timestamp() as name`. -/
inductive Selection where
  | all
  | timestampAs (name : Str)

inductive RuleAction where
  | dynamoDBv2 (table : Str)
  | lambda (functionArn : Str)

structure TopicRule where
  name : Str
  select : List Selection
  filter : Str
  actions : List RuleAction

/-- `SELECT *, timestamp() as arrival_ts FROM 'sdv/telemetry/from/uin/+'` -/
def createTelemetryRule : TopicRule where
  name := lit "sdv_telemetry_to_ddb"
  select := [.all, .timestampAs (lit "arrival_ts")]
  filter := lit "sdv/telemetry/from/uin/+"
  actions := [.dynamoDBv2 tableTelemetry]

/-- `SELECT * FROM 'sdv/Analytics/from/uin/+/anomaly'`. An empty name is no Lambda. -/
def createAnomalyRule (lambdaArn : Option Str) : TopicRule where
  name := lit "sdv_anomaly_route"
  select := [.all]
  filter := lit "sdv/Analytics/from/uin/+/anomaly"
  actions := .dynamoDBv2 tableAnomalies ::
    ((lambdaArn.filter fun arn => !arn.isEmpty).toList.map .lambda)

def rules (lambdaArn : Option Str) : List TopicRule :=
  [createTelemetryRule, createAnomalyRule lambdaArn]

def TopicRule.listens (rule : TopicRule) (topic : Str) : Bool :=
  TopicFilter.matchesTopic 0x2F 0x2B rule.filter topic

def TopicRule.selected (rule : TopicRule) (arrival : Int) (members : List (Str × Json)) :
    List (Str × Json) :=
  rule.select.foldl
    (fun item selection =>
      match selection with
      | .all => item ++ members
      | .timestampAs name => replaceMember name (.integer arrival) item)
    []

/-- A key of the tables is a string, and not empty. -/
def keyText (name : Str) (item : List (Str × Json)) : Option Str :=
  match Json.member? name item with
  | some (.string (first :: rest)) => some (first :: rest)
  | _ => none

structure Keys where
  uin : Str
  timestamp : Str
deriving DecidableEq

def keys? (item : List (Str × Json)) : Option Keys := do
  return ⟨← keyText (lit "uin") item, ← keyText (lit "timestamp") item⟩

structure Row where
  table : Str
  keys : Keys
  item : List (Str × Json)

def TopicRule.put (rule : TopicRule) (item : List (Str × Json)) : List Row :=
  rule.actions.filterMap fun action =>
    match action with
    | .dynamoDBv2 table => (keys? item).map (⟨table, ·, item⟩)
    | .lambda _ => none

structure Engine where
  parse : Str → Option Json
  arrival : Int

/-- What a published message writes. Only an object can be put. -/
def TopicRule.rows (rule : TopicRule) (engine : Engine) (message : Message) : List Row :=
  if rule.listens message.topic then
    match engine.parse message.payload with
    | some (.object members) => rule.put (rule.selected engine.arrival members)
    | _ => []
  else []

end SdvGateway.Cloud.Rules

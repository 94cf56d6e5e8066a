import SdvGateway.Common.Json
import SdvGateway.Library.CappedSet

/-! The downlink consumer: parsing, the duplicate guard and the routing of
remote commands. A diagnosis shares the consumer queue but only gets logged. -/
namespace SdvGateway.Gateway.CommandHandler
open Common Library

structure Env where
  json : JsonText
  uin : Str

def topic (uin : Str) : Str := lit "sdv/commands/to/uin/" ++ uin

def diagnosisTopic (uin : Str) : Str := lit "sdv/Analytics/to/uin/" ++ uin ++ lit "/diagnosis"

def maxSeenIds : Nat := 200

abbrev SeenIds := CappedSet Str maxSeenIds

instance : NeZero maxSeenIds := ⟨by decide⟩

def typeMap : List (Str × CommandType) := [
  (lit "DOOR_LOCK", .doorLock),
  (lit "DOOR_UNLOCK", .doorUnlock),
  (lit "ENGINE_START", .engineStart),
  (lit "HORN_LIGHT", .hornLight),
  (lit "OTA_TRIGGER", .otaTrigger)]

/-- The command in a payload: `type` is required, the other members default. -/
def readCommand (env : Env) (payload : Str) : Except JsonError Command := do
  let j ← env.json.parse payload
  let typeStr ← (← j.at_ (lit "type")).getString
  let correlationId ← j.valueString (lit "correlation_id") []
  let payloadJson ← env.json.dump (← j.valueJson (lit "payload") (.object []))
  pure ⟨(typeMap.lookup typeStr).getD .unknown, correlationId, payloadJson⟩

def parseCommand (env : Env) (payload : Str) (out : Command) : Bool × Command :=
  match readCommand env payload with
  | .ok cmd => (true, cmd)
  | .error _ => (false, out)

def alreadySeen (seen : SeenIds) (correlationId : Str) : Bool × SeenIds :=
  seen.remember correlationId

inductive Action where
  | pushOta (cmd : Command)
  | writeCan (type : CommandType) (payloadJson : Str)
  | drop
deriving DecidableEq

def route (cmd : Command) : Action :=
  match cmd.type with
  | .otaTrigger => .pushOta cmd
  | .doorLock | .doorUnlock | .engineStart | .hornLight => .writeCan cmd.type cmd.payloadJson
  | .unknown => .drop

structure Diagnosis where
  driverMsg : Str
  dtc : Str
  asil : Str
  rootCause : Str
deriving DecidableEq

def handleDiagnosis (env : Env) (payload : Str) : Except JsonError Diagnosis := do
  let j ← env.json.parse payload
  let driverMsg ← j.valueString (lit "driver_message") []
  let dtc ← j.valueString (lit "dtc") []
  let asil ← j.valueString (lit "asil") []
  let rootCause ← j.valueString (lit "root_cause") []
  pure ⟨driverMsg, dtc, asil, rootCause⟩

inductive Handled where
  | diagnosis (logged : Except JsonError Diagnosis)
  | malformed
  | duplicate (cmd : Command)
  | accepted (cmd : Command) (action : Action)

def Handled.routed : Handled → Bool
  | .accepted _ _ => true
  | _ => false

def Handled.id? : Handled → Option Str
  | .duplicate cmd | .accepted cmd _ => some cmd.correlationId
  | _ => none

def Handled.parsed : Handled → Bool
  | .diagnosis _ => false
  | _ => true

/-- The local `Command cmd;`, whose type is indeterminate and not read before
`parse_command` has filled it. -/
def emptyCommand : Command := ⟨.unknown, [], []⟩

def handle (env : Env) (seen : SeenIds) (message : Message) : Handled × SeenIds :=
  if message.topic = diagnosisTopic env.uin then
    (.diagnosis (handleDiagnosis env message.payload), seen)
  else
    match parseCommand env message.payload emptyCommand with
    | (false, _) => (.malformed, seen)
    | (true, cmd) =>
      match alreadySeen seen cmd.correlationId with
      | (true, seen) => (.duplicate cmd, seen)
      | (false, seen) => (.accepted cmd (route cmd), seen)

inductive Handles (env : Env) (seen : SeenIds) (message : Message) : Handled × SeenIds → Prop
  | diagnosis (htopic : message.topic = diagnosisTopic env.uin) :
      Handles env seen message (.diagnosis (handleDiagnosis env message.payload), seen)
  | malformed (htopic : message.topic ≠ diagnosisTopic env.uin) (e : JsonError)
      (hread : readCommand env message.payload = .error e) :
      Handles env seen message (.malformed, seen)
  | duplicate (htopic : message.topic ≠ diagnosisTopic env.uin) (cmd : Command)
      (hread : readCommand env message.payload = .ok cmd)
      (hseen : cmd.correlationId ∈ seen.keys) :
      Handles env seen message (.duplicate cmd, seen)
  | accepted (htopic : message.topic ≠ diagnosisTopic env.uin) (cmd : Command)
      (hread : readCommand env message.payload = .ok cmd)
      (hnew : cmd.correlationId ∉ seen.keys) :
      Handles env seen message
        (.accepted cmd (route cmd), (seen.remember cmd.correlationId).2)

theorem handle_handles (env : Env) (seen : SeenIds) (message : Message) :
    Handles env seen message (handle env seen message) := by
  unfold handle
  by_cases htopic : message.topic = diagnosisTopic env.uin
  · rw [if_pos htopic]
    exact .diagnosis htopic
  · rw [if_neg htopic]
    cases hread : readCommand env message.payload with
    | error e =>
      simp only [parseCommand, hread]
      exact .malformed htopic e hread
    | ok cmd =>
      simp only [parseCommand, hread, alreadySeen]
      by_cases hseen : cmd.correlationId ∈ seen.keys
      · rw [CappedSet.remember_of_mem hseen]
        exact .duplicate htopic cmd hread hseen
      · have hnew : seen.remember cmd.correlationId =
            (false, (seen.remember cmd.correlationId).2) :=
          Prod.ext (CappedSet.remember_of_notMem hseen) rfl
        rw [hnew]
        exact .accepted htopic cmd hread hseen

theorem handle_parsed (env : Env) (seen : SeenIds) (message : Message) :
    (handle env seen message).1.parsed = decide (message.topic ≠ diagnosisTopic env.uin) := by
  have h := handle_handles env seen message
  generalize handle env seen message = result at h
  cases h with
  | diagnosis htopic => simp [Handled.parsed, htopic]
  | malformed htopic | duplicate htopic | accepted htopic => simp [Handled.parsed, htopic]

structure Record where
  message : Message
  handled : Handled
  seen : SeenIds

/-- One turn of `while (running_)`: no message arrives in time, an empty pointer
is returned, or a message is consumed. -/
inductive Turn where
  | timeout
  | nothing
  | consumed (message : Message)

def run (env : Env) : SeenIds → List Turn → List Record
  | _, [] => []
  | seen, .timeout :: rest => run env seen rest
  | seen, .nothing :: rest => run env seen rest
  | seen, .consumed message :: rest =>
    let result := handle env seen message
    ⟨message, result.1, result.2⟩ :: run env result.2 rest

end SdvGateway.Gateway.CommandHandler

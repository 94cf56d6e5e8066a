import SdvGateway.Gateway.Redelivery
import SdvGateway.Library.Machine

/-! Start-up of the gateway. The main thread, the consumer thread it spawns and
the broker take their steps in any order. The broker may deliver what it queued
for the persistent session as soon as the client is connected. -/
namespace SdvGateway.Gateway.Startup
open Common Library CommandHandler

/-- What the main thread does next. The middle steps are those of
`CommandHandler::start`. -/
inductive MainStep where
  | connect
  | loadDbc
  | createModules
  | startCanWriter
  | startCanReader
  | startTelemetry
  | checkConnected
  | subscribeCommands
  | subscribeDiagnosis
  | spawnConsumer
  | startOta
  | startAnomaly
  | decodeLoop
  | shutdown
deriving DecidableEq

namespace MainStep

def next : MainStep → MainStep
  | connect => loadDbc
  | loadDbc => createModules
  | createModules => startCanWriter
  | startCanWriter => startCanReader
  | startCanReader => startTelemetry
  | startTelemetry => checkConnected
  | checkConnected => subscribeCommands
  | subscribeCommands => subscribeDiagnosis
  | subscribeDiagnosis => spawnConsumer
  | spawnConsumer => startOta
  | startOta => startAnomaly
  | startAnomaly => decodeLoop
  | decodeLoop | shutdown => shutdown

/-- The step after a failure. Only a missing anomaly model is not fatal. -/
def failed : MainStep → Option MainStep
  | createModules | spawnConsumer | decodeLoop | shutdown => none
  | startAnomaly => some decodeLoop
  | _ => some shutdown

end MainStep

/-- The consumer thread. The client's consumer queue exists from
`start_consuming` on. -/
inductive Consumer where
  | notSpawned
  | spawned
  | consuming (queue : List Message)
deriving DecidableEq

def Consumer.queue : Consumer → List Message
  | .consuming queue => queue
  | _ => []

def Consumer.installed : Consumer → Bool
  | .consuming _ => true
  | _ => false

def Consumer.spawn : Consumer → Consumer
  | .notSpawned => .spawned
  | started => started

/-- `delivered` are the messages that have arrived at the client, `records` what
the consumer loop has made of those it took from the queue, both oldest first. -/
structure State where
  main : MainStep
  consumer : Consumer
  delivered : List Message
  seen : SeenIds
  records : List Record

inductive Action where
  | main (ok : Bool)
  | consumer
  | deliver (message : Message)

def isCommand (uin : Str) (message : Message) : Bool := message.topic ≠ diagnosisTopic uin

def stepMain (s : State) (ok : Bool) : Option State :=
  if ok then
    some { s with
      main := s.main.next
      consumer := if s.main = .spawnConsumer then s.consumer.spawn else s.consumer }
  else s.main.failed.map fun main => { s with main }

def stepConsumer (env : Env) (s : State) : Option State :=
  match s.consumer with
  | .notSpawned => none
  | .spawned => some { s with consumer := .consuming [] }
  | .consuming [] => some s
  | .consuming (message :: queue) =>
    let result := handle env s.seen message
    some { s with
      consumer := .consuming queue
      seen := result.2
      records := s.records ++ [⟨message, result.1, result.2⟩] }

/-- A message that finds no consumer queue is acknowledged and discarded. -/
def stepDeliver (s : State) (message : Message) : Option State :=
  if s.main = .connect then none
  else
    some { s with
      delivered := s.delivered ++ [message]
      consumer :=
        match s.consumer with
        | .consuming queue => .consuming (queue ++ [message])
        | idle => idle }

def machine (env : Env) : Machine State Action where
  init := ⟨.connect, .notSpawned, [], CappedSet.empty, []⟩
  step s action :=
    if s.main = .shutdown then none
    else
      match action with
      | .main ok => stepMain s ok
      | .consumer => stepConsumer env s
      | .deliver message => stepDeliver s message

def parsedMessages (records : List Record) : List Message :=
  (records.filter (·.handled.parsed)).map Record.message

/-- Every delivered command has been handed to `parse_command` or waits in the
consumer queue, in arrival order. -/
def Kept (uin : Str) (s : State) : Prop :=
  s.delivered.filter (isCommand uin) =
    parsedMessages s.records ++ s.consumer.queue.filter (isCommand uin)

instance : DecidablePred (Kept uin) := fun s =>
  inferInstanceAs (Decidable (s.delivered.filter (isCommand uin) =
    parsedMessages s.records ++ s.consumer.queue.filter (isCommand uin)))

/-- A command is delivered only once the consumer queue is installed. -/
def ConsumerReady (uin : Str) (s : State) (action : Action) : Prop :=
  ∀ message, action = .deliver message → isCommand uin message = true →
    s.consumer.installed = true

theorem kept_main {uin : Str} {s s' : State} {ok : Bool} (hstep : stepMain s ok = some s')
    (hkept : Kept uin s) : Kept uin s' := by
  cases ok with
  | true =>
    simp only [stepMain, if_true, Option.some.injEq] at hstep
    subst hstep
    have hqueue : (if s.main = .spawnConsumer then s.consumer.spawn else s.consumer).queue =
        s.consumer.queue := by
      split
      · cases s.consumer <;> rfl
      · rfl
    simpa only [Kept, hqueue] using hkept
  | false =>
    simp only [stepMain, Bool.false_eq_true, if_false, Option.map_eq_some_iff] at hstep
    obtain ⟨main, _, rfl⟩ := hstep
    exact hkept

private theorem kept_consumer {env : Env} {s s' : State} (hstep : stepConsumer env s = some s')
    (hkept : Kept env.uin s) : Kept env.uin s' := by
  obtain ⟨main, consumer, delivered, seen, records⟩ := s
  cases consumer with
  | notSpawned => simp [stepConsumer] at hstep
  | spawned =>
    cases hstep
    exact hkept
  | consuming queue =>
    cases queue with
    | nil =>
      cases hstep
      exact hkept
    | cons message queue =>
      cases hstep
      have hparsed : (handle env seen message).1.parsed = isCommand env.uin message :=
        handle_parsed env seen message
      unfold Kept parsedMessages at hkept ⊢
      cases hcommand : isCommand env.uin message <;>
        simpa [Consumer.queue, List.filter_cons, List.filter_append, hparsed, hcommand]
          using hkept

private theorem kept_deliver {uin : Str} {s s' : State} {message : Message}
    (hstep : stepDeliver s message = some s') (hkept : Kept uin s) :
    Kept uin s' ↔ (isCommand uin message = true → s.consumer.installed = true) := by
  obtain ⟨main, consumer, delivered, seen, records⟩ := s
  simp only [stepDeliver, Option.ite_none_left_eq_some, Option.some.injEq] at hstep
  obtain ⟨_, rfl⟩ := hstep
  unfold Kept at hkept ⊢
  simp only [List.filter_append, hkept]
  cases consumer with
  | notSpawned | spawned =>
    cases hcommand : isCommand uin message <;>
      simp [Consumer.queue, Consumer.installed, hcommand]
  | consuming queue =>
    simp [Consumer.queue, Consumer.installed]

/-- No command is lost in any state of a run exactly when the broker delivers
none before `start_consuming`. -/
theorem commands_kept_iff (env : Env) (actions : List Action) :
    (machine env).Always (Kept env.uin) (machine env).init actions ↔
      (machine env).Along (ConsumerReady env.uin) (machine env).init actions := by
  apply Machine.always_iff_along
  · intro s action s' hstep hkept
    simp only [machine, Option.ite_none_left_eq_some] at hstep
    cases action with
    | main ok => simp [kept_main hstep.2 hkept, ConsumerReady]
    | consumer => simp [kept_consumer hstep.2 hkept, ConsumerReady]
    | deliver message => simp [kept_deliver hstep.2 hkept, ConsumerReady]
  · rfl

theorem command_lost_after_connect :
    ¬(machine Redelivery.sampleEnv).Always (Kept Redelivery.sampleEnv.uin)
      (machine Redelivery.sampleEnv).init
      [.main true, .deliver (Redelivery.sampleMessage 1)] := by
  decide

end SdvGateway.Gateway.Startup

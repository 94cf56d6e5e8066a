import SdvGateway.Library.Scopes

/-! The life of the gateway process. Main constructs the client, the queues and the
modules, starts the modules, decodes until a signal comes and stops them. It returns early
when a start fails. On every way out the destructors run in reverse order. -/
namespace SdvGateway.Gateway.Lifecycle
open Library Scopes

inductive Worker where
  | canReader
  | telemetryPub
  | cmdHandler
  | otaAgent
  | anomalyDet
deriving DecidableEq

/-- The objects of main, the sockets that two of them open and the session of the client. -/
inductive Resource where
  | mqttClient
  | session
  | canFrameQ
  | telemetryQ
  | anomalyQ
  | otaQ
  | decoder
  | canReader
  | readerSocket
  | canWriter
  | writerSocket
  | telemetryPub
  | cmdHandler
  | otaAgent
  | anomalyDet
deriving DecidableEq

def uses : Worker → List Resource
  | .canReader => [.canReader, .readerSocket, .canFrameQ]
  | .telemetryPub => [.telemetryPub, .telemetryQ, .mqttClient, .session]
  | .cmdHandler => [.cmdHandler, .mqttClient, .session, .otaQ, .canWriter, .writerSocket]
  | .otaAgent => [.otaAgent, .otaQ, .mqttClient, .session]
  | .anomalyDet => [.anomalyDet, .anomalyQ, .mqttClient, .session]

abbrev Op := ScopeOp Worker Resource

namespace CanReader

def start (opened : Bool) : List Op :=
  if opened then [.acquire .readerSocket, .spawn .canReader] else []

def stop : List Op := [.clear .canReader, .join .canReader, .release .readerSocket]

end CanReader

namespace CanWriter

def start (opened : Bool) : List Op := if opened then [.acquire .writerSocket] else []

def stop : List Op := [.release .writerSocket]

end CanWriter

namespace TelemetryPublisher

def start (connected : Bool) : List Op :=
  .touch .mqttClient :: if connected then [.spawn .telemetryPub] else []

def stop : List Op := [.clear .telemetryPub, .join .telemetryPub]

end TelemetryPublisher

namespace CommandHandler

def start (subscribed : Bool) : List Op :=
  .touch .mqttClient :: .touch .session :: if subscribed then [.spawn .cmdHandler] else []

/-- The client throws when it is not connected any more, and the handler goes on. -/
def stop : List Op :=
  [.clear .cmdHandler, .join .cmdHandler, .touch .mqttClient, .attempt .session]

end CommandHandler

namespace OtaAgent

def start : List Op := [.spawn .otaAgent]

def stop : List Op := [.clear .otaAgent, .join .otaAgent]

end OtaAgent

namespace AnomalyDetector

def start (loaded : Bool) : List Op := if loaded then [.spawn .anomalyDet] else []

def stop : List Op := [.clear .anomalyDet, .join .anomalyDet]

end AnomalyDetector

def destructor : Resource → List Op
  | .mqttClient => [.release .session]
  | .canReader => CanReader.stop
  | .canWriter => CanWriter.stop
  | .telemetryPub => TelemetryPublisher.stop
  | .cmdHandler => CommandHandler.stop
  | .otaAgent => OtaAgent.stop
  | .anomalyDet => AnomalyDetector.stop
  | _ => []

def unwind (objects : List Resource) : List Op :=
  objects.reverse.flatMap fun object => destructor object ++ [.release object]

def construct (objects : List Resource) : List Op := objects.map .acquire

def queues : List Resource := [.canFrameQ, .telemetryQ, .anomalyQ, .otaQ, .decoder]

def modules : List Resource :=
  [.canReader, .canWriter, .telemetryPub, .cmdHandler, .otaAgent, .anomalyDet]

/-- How the fallible steps of main go. The decode loop takes one turn for each element of
`turns`: no frame within the timeout, or a frame with so many decoded signals. -/
structure Outcomes where
  connected : Bool
  dbcLoaded : Bool
  writerOpened : Bool
  readerOpened : Bool
  telemetryStarted : Bool
  handlerStarted : Bool
  modelLoaded : Bool
  turns : List (Option Nat)

def decodeTurn : Option Nat → List Resource
  | none => [.canFrameQ]
  | some signals =>
    .canFrameQ :: .decoder :: (List.replicate signals [.telemetryQ, .anomalyQ]).flatten

def decodeLoop (turns : List (Option Nat)) : List Op :=
  (turns.flatMap decodeTurn).map .touch

def shutdown : List Op :=
  AnomalyDetector.stop ++ OtaAgent.stop ++ CommandHandler.stop ++ TelemetryPublisher.stop ++
    CanReader.stop ++ CanWriter.stop ++ [.touch .mqttClient, .release .session]

def startAll (objects : List Resource) : List (Bool × List Op) → List Op → List Op
  | [], rest => rest
  | (started, ops) :: more, rest =>
    ops ++ if started then startAll objects more rest else unwind objects

def main (o : Outcomes) : List Op :=
  .acquire .mqttClient :: .touch .mqttClient ::
    if o.connected then
      .acquire .session :: construct queues ++
        if o.dbcLoaded then
          construct modules ++
            startAll (.mqttClient :: queues ++ modules) [
              (o.writerOpened, CanWriter.start o.writerOpened),
              (o.readerOpened, CanReader.start o.readerOpened),
              (o.telemetryStarted, TelemetryPublisher.start o.telemetryStarted),
              (o.handlerStarted, CommandHandler.start o.handlerStarted),
              (true, OtaAgent.start)]
            (AnomalyDetector.start o.modelLoaded ++ (decodeLoop o.turns ++
              (shutdown ++ unwind (.mqttClient :: queues ++ modules))))
        else unwind (.mqttClient :: queues)
    else unwind [.mqttClient]

theorem checks_decodeLoop {known : Known Worker Resource}
    (h : ∀ r ∈ [Resource.canFrameQ, .decoder, .telemetryQ, .anomalyQ], r ∈ known.held)
    (turns : List (Option Nat)) : checks uses known (decodeLoop turns) = some known := by
  apply checks_touch
  intro r hr
  obtain ⟨turn, -, hturn⟩ := List.mem_flatMap.mp hr
  apply h
  cases turn with
  | none =>
    rw [decodeTurn, List.mem_singleton] at hturn
    simp [hturn]
  | some signals =>
    simp only [decodeTurn, List.mem_cons, List.mem_flatten, List.mem_replicate] at hturn
    obtain rfl | rfl | ⟨_, ⟨-, rfl⟩, hturn⟩ := hturn
    · simp
    · simp
    · simp only [List.mem_cons, List.not_mem_nil, or_false] at hturn
      simp [hturn]

def started (modelLoaded : Bool) : Known Worker Resource where
  held := .readerSocket :: .writerSocket :: (modules.reverse ++ queues.reverse) ++
    [.session, .mqttClient]
  running := (if modelLoaded then [.anomalyDet] else []) ++
    [.otaAgent, .cmdHandler, .telemetryPub, .canReader]
  joinable := (if modelLoaded then [.anomalyDet] else []) ++
    [.otaAgent, .cmdHandler, .telemetryPub, .canReader]
  refused := []

def Outcomes.allStarted (o : Outcomes) : Bool :=
  o.connected && o.dbcLoaded && o.writerOpened && o.readerOpened && o.telemetryStarted &&
    o.handlerStarted

/-- After the shutdown sequence the destructor of the handler stops it once more, with the
client disconnected. -/
def refusals (o : Outcomes) : List Resource := if o.allStarted then [.session] else []

theorem checks_main (o : Outcomes) :
    checks uses .nothing (main o) = some (.ended (refusals o)) := by
  obtain ⟨connected, dbcLoaded, writerOpened, readerOpened, telemetryStarted, handlerStarted,
    modelLoaded, turns⟩ := o
  cases connected
  · rfl
  cases dbcLoaded
  · rfl
  cases writerOpened
  · rfl
  cases readerOpened
  · rfl
  cases telemetryStarted
  · rfl
  cases handlerStarted
  · rfl
  have hstarted : checks uses .nothing
      (main ⟨true, true, true, true, true, true, modelLoaded, turns⟩) =
        checks uses (started modelLoaded) (decodeLoop turns ++ (shutdown ++
          unwind (.mqttClient :: queues ++ modules))) := by
    cases modelLoaded <;> rfl
  have hheld : ∀ r ∈ [Resource.canFrameQ, .decoder, .telemetryQ, .anomalyQ],
      r ∈ (started modelLoaded).held := by
    cases modelLoaded <;> decide
  have hloop := checks_decodeLoop hheld turns
  rw [hstarted, checks_append hloop]
  cases modelLoaded <;> rfl

/-- Whichever start fails and whenever the signal comes, under every schedule: no thread
runs that could use a queue, a socket, the client or a module that is gone, main uses no
such thing itself, and when main returns all threads are joined and all is released. The
one call that the closed session refuses is the last of the handler's destructor. -/
theorem nothing_used_after_release (o : Outcomes) (actions : List (Action Worker)) :
    (machine (main o)).Always (fun s => Sound uses s ∧ s.refused <+: refusals o ∧
      (s.rest = [] → s.held = [] ∧ (∀ worker, s.thread worker = .absent) ∧
        s.refused = refusals o))
      (machine (main o)).init actions :=
  sound_of_checked (checks_main o) actions

-- The handler may still write while the writer's socket is closed.
example : checks uses (started true)
    (CanWriter.stop ++ AnomalyDetector.stop ++ OtaAgent.stop ++ CommandHandler.stop) = none :=
  rfl

def workers : List Worker := [.canReader, .telemetryPub, .cmdHandler, .otaAgent, .anomalyDet]

private theorem mem_workers (worker : Worker) :
    worker ∈ workers.toFinset := by cases worker <;> decide

instance : Fintype Worker := ⟨workers.toFinset, mem_workers⟩

/-- Main returns on every way, as long as main and every thread get their turns. -/
theorem main_returns (o : Outcomes) {schedule : Nat → Action Worker}
    (hfair : Machine.Fair schedule) :
    ∃ n, ((machine (main o)).stateAt schedule n).rest = [] :=
  returns_of_checked (checks_main o) hfair

def turnOf : Nat → Action Worker
  | 0 => .thread .canReader
  | 1 => .thread .telemetryPub
  | 2 => .thread .cmdHandler
  | 3 => .thread .otaAgent
  | 4 => .thread .anomalyDet
  | _ => .main

def roundRobin (n : Nat) : Action Worker := turnOf (n % 6)

private theorem roundRobin_turn (n k : Nat) (hk : k < 6) : ∃ m, n ≤ m ∧ roundRobin m = turnOf k :=
  ⟨6 * n + k, by omega, congrArg turnOf (by omega)⟩

private theorem roundRobin_fair : Machine.Fair roundRobin := by
  intro action n
  cases action with
  | main => exact roundRobin_turn n 5 (by decide)
  | thread worker =>
    cases worker with
    | canReader => exact roundRobin_turn n 0 (by decide)
    | telemetryPub => exact roundRobin_turn n 1 (by decide)
    | cmdHandler => exact roundRobin_turn n 2 (by decide)
    | otaAgent => exact roundRobin_turn n 3 (by decide)
    | anomalyDet => exact roundRobin_turn n 4 (by decide)

theorem main_returns_sample : ∃ n, ((machine (main ⟨true, true, true, true, true, true, false,
    [some 2, none, some 1]⟩)).stateAt roundRobin n).rest = [] :=
  main_returns _ roundRobin_fair

end SdvGateway.Gateway.Lifecycle

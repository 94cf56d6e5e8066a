import SdvGateway.Gateway.CommandHandler
import SdvGateway.Gateway.OtaStatus
import SdvGateway.Library.Machine

/-! The end of the gateway's run. Main stops the modules one after another while
messages arrive and the command consumer and the OTA worker still step. -/
namespace SdvGateway.Gateway.OtaShutdown
open Common Library OtaAgent OtaStatus OtaFlow
open CommandHandler (SeenIds Handled handle)

/-- A `stop()` that matters here is split at its `join`. -/
inductive ShutdownStep where
  | stopAnomalyDet
  | clearOtaRunning
  | joinOta
  | clearCommandsRunning
  | joinCommands
  | unsubscribe
  | stopTelemetryPub
  | stopCanReader
  | stopCanWriter
  | disconnect
deriving DecidableEq

/-- The order in `main`: `anomaly_det`, `ota_agent`, `cmd_handler`, and the rest. -/
def shutdown : List ShutdownStep :=
  [.stopAnomalyDet, .clearOtaRunning, .joinOta, .clearCommandsRunning, .joinCommands,
    .unsubscribe, .stopTelemetryPub, .stopCanReader, .stopCanWriter, .disconnect]

inductive MainThread where
  | decoding
  | stopping (rest : List ShutdownStep)
deriving DecidableEq

inductive Consumer where
  | checking
  | consuming
  | handling (message : Message)
  | ended
deriving DecidableEq

inductive Worker where
  | checking
  | popping
  | busy (cmd : Command)
  | ended
  | crashed (cmd : Command)
deriving DecidableEq

def Worker.current : Worker → List Command
  | .busy cmd | .crashed cmd => [cmd]
  | _ => []

/-- `inbox` is the consumer queue of the client, which can hold empty pointers.
`accepted` and `finished` record what happened and are read by nobody. -/
structure State where
  main : MainThread
  inbox : List (Option Message)
  commandsRunning : Bool
  consumer : Consumer
  seen : SeenIds
  accepted : List Command
  otaQueue : List Command
  otaRunning : Bool
  worker : Worker
  files : Files
  finished : List Record

inductive Action where
  | arrive (delivered : Option Message)
  | main
  | consumer
  | worker (o : Outcomes)

def commandEnv (env : Env) : CommandHandler.Env := ⟨env.json, env.uin⟩

def State.perform (s : State) : ShutdownStep → Option State
  | .clearOtaRunning => some { s with otaRunning := false }
  | .joinOta => if s.worker = .ended then some s else none
  | .clearCommandsRunning => some { s with commandsRunning := false }
  | .joinCommands => if s.consumer = .ended then some s else none
  | _ => some s

def mainStep (s : State) : Option State :=
  match s.main with
  | .decoding => some { s with main := .stopping shutdown }
  | .stopping [] => none
  | .stopping (step :: rest) =>
    (s.perform step).map fun s => { s with main := .stopping rest }

def pushed : Handled → List Command
  | .accepted _ (.pushOta cmd) => [cmd]
  | _ => []

def consumerStep (env : Env) (s : State) : Option State :=
  match s.consumer with
  | .checking =>
    some { s with consumer := if s.commandsRunning then .consuming else .ended }
  | .consuming =>
    match s.inbox with
    | [] => some { s with consumer := .checking }
    | none :: rest => some { s with consumer := .checking, inbox := rest }
    | some message :: rest => some { s with consumer := .handling message, inbox := rest }
  | .handling message =>
    let (handled, seen) := handle (commandEnv env) s.seen message
    some { s with
      consumer := .checking
      seen := seen
      accepted := s.accepted ++ pushed handled
      otaQueue := s.otaQueue ++ pushed handled }
  | .ended => none

def workerStep (env : Env) (o : Outcomes) (s : State) : Option State :=
  match s.worker with
  | .checking => some { s with worker := if s.otaRunning then .popping else .ended }
  | .popping =>
    match s.otaQueue with
    | [] => some { s with worker := .checking }
    | cmd :: rest => some { s with worker := .busy cmd, otaQueue := rest }
  | .busy cmd =>
    let record := process env s.files cmd o
    match record.execution.outcome with
    | .ok _ => some { s with
        worker := .checking
        files := record.after
        finished := s.finished ++ [record] }
    | .error _ => some { s with worker := .crashed cmd, files := record.after }
  | .ended | .crashed _ => none

def step (env : Env) (s : State) (action : Action) : Option State :=
  match s.worker with
  | .crashed _ => none
  | _ =>
    match action with
    | .arrive delivered => some { s with inbox := s.inbox ++ [delivered] }
    | .main => mainStep s
    | .consumer => consumerStep env s
    | .worker o => workerStep env o s

def machine (env : Env) (files : Files) : Machine State Action where
  init :=
    { main := .decoding
      inbox := []
      commandsRunning := true
      consumer := .checking
      seen := CappedSet.empty
      accepted := []
      otaQueue := []
      otaRunning := true
      worker := .checking
      files := files
      finished := [] }
  step := step env

def State.returned (s : State) : Prop := s.main = .stopping []

instance (s : State) : Decidable s.returned := inferInstanceAs (Decidable (_ = _))

def Reported (s : State) : Prop :=
  ∀ record ∈ s.finished, WellReported record.command.correlationId (reports record.moments)

/-- Every accepted command was dequeued and given its terminal status. -/
def AllServed (s : State) : Prop :=
  s.accepted = s.finished.map (·.command) ∧ Reported s

def NotStranded (s : State) : Prop := s.worker = .ended → s.otaQueue = []

/-- The worker does not leave its loop while a command is queued, and no command is
queued after it has left. -/
def LeavesNothing (env : Env) (s : State) : Action → Prop
  | .worker _ => s.worker = .checking → s.otaRunning = false → s.otaQueue = []
  | .consumer => s.worker = .ended → ∀ message, s.consumer = .handling message →
      pushed (handle (commandEnv env) s.seen message).1 = []
  | _ => True

structure Accounted (s : State) : Prop where
  conserved : s.accepted = s.finished.map (·.command) ++ (s.worker.current ++ s.otaQueue)
  reported : Reported s
  joined : ∀ rest, s.main = .stopping rest → ShutdownStep.joinOta ∉ rest → s.worker = .ended

inductive Steps (env : Env) (s : State) : Action → State → Prop
  | arrived (delivered : Option Message) :
      Steps env s (.arrive delivered) { s with inbox := s.inbox ++ [delivered] }
  | leftLoop (hmain : s.main = .decoding) :
      Steps env s .main { s with main := .stopping shutdown }
  | performed (step : ShutdownStep) (rest : List ShutdownStep)
      (hmain : s.main = .stopping (step :: rest)) (after : State)
      (hperform : s.perform step = some after) :
      Steps env s .main { after with main := .stopping rest }
  | consumed (consumer : Consumer) (inbox : List (Option Message))
      (hidle : ∀ message, s.consumer ≠ .handling message) :
      Steps env s .consumer { s with consumer := consumer, inbox := inbox }
  | handled (message : Message) (hconsumer : s.consumer = .handling message) :
      Steps env s .consumer { s with
        consumer := .checking
        seen := (handle (commandEnv env) s.seen message).2
        accepted := s.accepted ++ pushed (handle (commandEnv env) s.seen message).1
        otaQueue := s.otaQueue ++ pushed (handle (commandEnv env) s.seen message).1 }
  | checked (o : Outcomes) (hworker : s.worker = .checking) :
      Steps env s (.worker o) { s with worker := if s.otaRunning then .popping else .ended }
  | timedOut (o : Outcomes) (hworker : s.worker = .popping) :
      Steps env s (.worker o) { s with worker := .checking }
  | popped (o : Outcomes) (hworker : s.worker = .popping) (cmd : Command)
      (rest : List Command) (hqueue : s.otaQueue = cmd :: rest) :
      Steps env s (.worker o) { s with worker := .busy cmd, otaQueue := rest }
  | processed (o : Outcomes) (cmd : Command) (hworker : s.worker = .busy cmd)
      (hok : (process env s.files cmd o).execution.outcome = .ok ()) :
      Steps env s (.worker o) { s with
        worker := .checking
        files := (process env s.files cmd o).after
        finished := s.finished ++ [process env s.files cmd o] }
  | threw (o : Outcomes) (cmd : Command) (hworker : s.worker = .busy cmd) :
      Steps env s (.worker o) { s with
        worker := .crashed cmd
        files := (process env s.files cmd o).after }

theorem consumerStep_steps {env : Env} {s s' : State} (h : consumerStep env s = some s') :
    Steps env s .consumer s' := by
  unfold consumerStep at h
  cases hconsumer : s.consumer with
  | checking =>
    simp only [hconsumer, Option.some.injEq] at h
    rw [← h]
    exact .consumed _ s.inbox (by simp [hconsumer])
  | consuming =>
    have hidle : ∀ message, s.consumer ≠ .handling message := by simp [hconsumer]
    simp only [hconsumer] at h
    split at h
    all_goals
      rw [← Option.some.inj h]
      exact .consumed _ _ hidle
  | handling message =>
    simp only [hconsumer, Option.some.injEq] at h
    rw [← h]
    exact .handled message hconsumer
  | ended => simp [hconsumer] at h

private theorem workerStep_steps {env : Env} {o : Outcomes} {s s' : State}
    (h : workerStep env o s = some s') : Steps env s (.worker o) s' := by
  unfold workerStep at h
  cases hworker : s.worker with
  | checking =>
    simp only [hworker, Option.some.injEq] at h
    rw [← h]
    exact .checked o hworker
  | popping =>
    simp only [hworker] at h
    cases hqueue : s.otaQueue with
    | nil =>
      simp only [hqueue, Option.some.injEq] at h
      rw [← h, ← hqueue]
      exact .timedOut o hworker
    | cons cmd rest =>
      simp only [hqueue, Option.some.injEq] at h
      rw [← h]
      exact .popped o hworker cmd rest hqueue
  | busy cmd =>
    simp only [hworker] at h
    cases houtcome : (process env s.files cmd o).execution.outcome with
    | ok _ =>
      simp only [houtcome, Option.some.injEq] at h
      rw [← h]
      exact .processed o cmd hworker houtcome
    | error e =>
      simp only [houtcome, Option.some.injEq] at h
      rw [← h]
      exact .threw o cmd hworker
  | ended | crashed cmd => simp [hworker] at h

private theorem mainStep_steps {env : Env} {s s' : State} (h : mainStep s = some s') :
    Steps env s .main s' := by
  unfold mainStep at h
  split at h
  · next hmain =>
    rw [← Option.some.inj h]
    exact .leftLoop hmain
  · cases h
  · next step rest hmain =>
    obtain ⟨after, hperform, rfl⟩ := Option.map_eq_some_iff.mp h
    exact .performed step rest hmain after hperform

theorem step_steps {env : Env} {s s' : State} {action : Action}
    (h : step env s action = some s') : Steps env s action s' := by
  unfold step at h
  split at h
  · cases h
  · cases action with
    | arrive delivered =>
      rw [← Option.some.inj h]
      exact .arrived delivered
    | main => exact mainStep_steps h
    | consumer => exact consumerStep_steps h
    | worker o => exact workerStep_steps h

theorem perform_frame {s after : State} {step : ShutdownStep}
    (h : s.perform step = some after) :
    after.accepted = s.accepted ∧ after.otaQueue = s.otaQueue ∧ after.worker = s.worker ∧
      after.finished = s.finished ∧ (step = .joinOta → s.worker = .ended) := by
  cases step with
  | joinOta =>
    simp only [State.perform, Option.ite_none_right_eq_some, Option.some.injEq] at h
    obtain ⟨hended, rfl⟩ := h
    simp [hended]
  | joinCommands =>
    simp only [State.perform, Option.ite_none_right_eq_some, Option.some.injEq] at h
    obtain ⟨_, rfl⟩ := h
    simp
  | _ =>
    obtain rfl := Option.some.inj h
    simp

private theorem process_reported (env : Env) (files : Files) (cmd : Command) (o : Outcomes)
    (h : (process env files cmd o).execution.outcome = .ok ()) :
    WellReported cmd.correlationId (reports (process env files cmd o).moments) :=
  flow_reported (processCommand_flow env o cmd files) h

theorem accounted_init (env : Env) (files : Files) : Accounted (machine env files).init where
  conserved := rfl
  reported := by simp [Reported, machine]
  joined := by simp [machine]

theorem accounted_step {env : Env} {s s' : State} {action : Action}
    (h : Steps env s action s') (hs : Accounted s) : Accounted s' := by
  -- main is still before the join of a worker that has not ended
  have hunjoined (hworker : s.worker ≠ .ended) (after : Worker) :
      ∀ rest, s.main = .stopping rest → ShutdownStep.joinOta ∉ rest → after = .ended := by
    intro rest hrest hnotin
    exact absurd (hs.joined rest hrest hnotin) hworker
  obtain ⟨hconserved, hreported, hjoined⟩ := hs
  cases h with
  | arrived delivered => exact ⟨hconserved, hreported, hjoined⟩
  | leftLoop hmain => exact ⟨hconserved, hreported, by simp [shutdown]⟩
  | performed step rest hmain after hperform =>
    obtain ⟨haccepted, hqueue, hworker, hfinished, hjoin⟩ := perform_frame hperform
    refine ⟨?_, ?_, ?_⟩
    · simp only [haccepted, hqueue, hworker, hfinished, hconserved]
    · simpa only [Reported, hfinished] using hreported
    · intro rest' hrest hnotin
      obtain rfl := MainThread.stopping.inj hrest
      rw [hworker]
      by_cases hstep : step = .joinOta
      · exact hjoin hstep
      · exact hjoined _ hmain (by simp [Ne.symm hstep, hnotin])
  | consumed consumer inbox hidle => exact ⟨hconserved, hreported, hjoined⟩
  | handled message hconsumer => exact ⟨by simp [hconserved], hreported, hjoined⟩
  | checked o hworker =>
    refine ⟨?_, hreported, hunjoined (by simp [hworker]) _⟩
    simp only [hconserved, hworker]
    cases s.otaRunning <;> rfl
  | timedOut o hworker =>
    refine ⟨?_, hreported, hunjoined (by simp [hworker]) _⟩
    simp [hconserved, hworker, Worker.current]
  | popped o hworker cmd rest hqueue =>
    refine ⟨?_, hreported, hunjoined (by simp [hworker]) _⟩
    simp [hconserved, hworker, hqueue, Worker.current]
  | processed o cmd hworker hok =>
    refine ⟨?_, ?_, hunjoined (by simp [hworker]) _⟩
    · simp [hconserved, hworker, Worker.current, process]
    · intro record hrecord
      rcases List.mem_append.mp hrecord with hrecord | hrecord
      · exact hreported record hrecord
      · obtain rfl := List.mem_singleton.mp hrecord
        exact process_reported env s.files cmd o hok
  | threw o cmd hworker =>
    refine ⟨?_, hreported, hunjoined (by simp [hworker]) _⟩
    simp [hconserved, hworker, Worker.current]

/-- What is accepted when main returns has been served, or is still in the queue. -/
theorem Accounted.of_returned {s : State} (h : Accounted s) (hreturned : s.returned) :
    s.accepted = s.finished.map (·.command) ++ s.otaQueue ∧ Reported s := by
  have hended : s.worker = .ended := h.joined [] hreturned (by simp)
  have hconserved := h.conserved
  rw [hended] at hconserved
  exact ⟨hconserved, h.reported⟩

private theorem notStranded_step_iff {env : Env} {s s' : State} {action : Action}
    (h : Steps env s action s') (hs : NotStranded s) :
    NotStranded s' ↔ LeavesNothing env s action := by
  cases h with
  | arrived delivered => simpa [LeavesNothing, NotStranded] using hs
  | leftLoop hmain => simpa [LeavesNothing, NotStranded] using hs
  | performed step rest hmain after hperform =>
    obtain ⟨_, hqueue, hworker, _, _⟩ := perform_frame hperform
    simpa [LeavesNothing, NotStranded, hqueue, hworker] using hs
  | consumed consumer inbox hidle =>
    simpa [LeavesNothing, NotStranded, hidle] using hs
  | handled message hconsumer =>
    simp only [NotStranded, LeavesNothing, hconsumer, Consumer.handling.injEq, forall_eq',
      List.append_eq_nil_iff]
    exact ⟨fun h hended => (h hended).2, fun h hended => ⟨hs hended, h hended⟩⟩
  | checked o hworker =>
    cases hrunning : s.otaRunning <;> simp [NotStranded, LeavesNothing, hworker, hrunning]
  | timedOut o hworker => simp [NotStranded, LeavesNothing, hworker]
  | popped o hworker cmd rest hqueue => simp [NotStranded, LeavesNothing, hworker]
  | processed o cmd hworker hok => simp [NotStranded, LeavesNothing, hworker]
  | threw o cmd hworker => simp [NotStranded, LeavesNothing, hworker]

private theorem always_accounted (env : Env) (files : Files) (actions : List Action) :
    (machine env files).Always Accounted (machine env files).init actions :=
  Machine.always_of_invariant (I := Accounted)
    (fun _ _ _ hstep => accounted_step (step_steps hstep)) (fun _ h => h)
    (accounted_init env files) actions

/-- When main returns, the accepted commands are those that the worker gave a terminal
status, followed by those still in the queue. Nothing is left in the queue of a worker
that has ended exactly as long as no step strands a command. -/
theorem shutdown_accounts_for_commands (env : Env) (files : Files) (actions : List Action) :
    let gateway := machine env files
    gateway.Always (fun s => s.returned →
        s.accepted = s.finished.map (·.command) ++ s.otaQueue ∧ Reported s) gateway.init actions ∧
      (gateway.Always NotStranded gateway.init actions ↔
        gateway.Along (LeavesNothing env) gateway.init actions) ∧
      (gateway.Along (LeavesNothing env) gateway.init actions →
        gateway.Always (fun s => s.returned → AllServed s) gateway.init actions) := by
  intro gateway
  have haccounted := always_accounted env files actions
  have hexact : gateway.Always NotStranded gateway.init actions ↔
      gateway.Along (LeavesNothing env) gateway.init actions :=
    Machine.always_iff_along (fun _ _ _ hstep => notStranded_step_iff (step_steps hstep))
      (by simp [NotStranded, gateway, machine]) actions
  refine ⟨haccounted.mono fun _ hs => hs.of_returned, hexact, fun halong => ?_⟩
  apply (haccounted.and (hexact.mpr halong)).mono
  rintro s ⟨hs, hempty⟩ hreturned
  have hended : s.worker = .ended := hs.joined [] hreturned (by simp)
  obtain ⟨hall, hreported⟩ := hs.of_returned hreturned
  rw [hempty hended, List.append_nil] at hall
  exact ⟨hall, hreported⟩

def sampleOrder : Str := 0x7B :: lit "\"type\":\"OTA_TRIGGER\"" ++ [0x7D]

def sampleGateway : Env where
  json :=
    { parse := fun text =>
        if text = sampleOrder then .ok (.object [(lit "type", .string (lit "OTA_TRIGGER"))])
        else .error .parseError
      floatText := fun _ => lit "0.0" }
  sha := sampleEnv.sha
  uin := lit "V1"

/-- The worker sees its flag cleared and ends. A command that has been delivered is
routed after that, and then the other modules stop. -/
def sampleInterleaving : List Action :=
  [.arrive (some ⟨CommandHandler.topic sampleGateway.uin, sampleOrder⟩)] ++
    List.replicate 3 .main ++ [.worker sampleOutcomes] ++ List.replicate 3 .consumer ++
    List.replicate 2 .main ++ [.consumer] ++ List.replicate 6 .main

theorem accepted_command_left_behind :
    ¬∀ (env : Env) (files : Files) (actions : List Action),
      (machine env files).Always (fun s => s.returned → AllServed s) (machine env files).init
        actions := by
  intro hall
  have hserved := (hall sampleGateway sampleFiles sampleInterleaving).mono
    (Q := fun s => s.returned → s.accepted = s.finished.map (·.command))
    fun _ h hreturned => (h hreturned).1
  revert hserved
  decide +kernel

end SdvGateway.Gateway.OtaShutdown

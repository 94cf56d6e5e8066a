import SdvGateway.Gateway.Redelivery
import SdvGateway.Library.Execution

/-! What a message that is no command can do to the consumer: nothing. Here the loop is
written with the exceptions of the JSON library and the two `try` blocks that stand in
their way. -/
namespace SdvGateway.Gateway.MalformedMessages
open Common Library CommandHandler Redelivery

def parseCommandBody (env : Env) (payload : Str) : Program JsonError Command Command Bool :=
  Program.tryCatch
    (do
      let cmd ← Program.ofExcept (readCommand env payload)
      Program.modify fun _ => cmd
      pure true)
    (fun _ => pure false)

def handleDiagnosisBody (env : Env) (payload : Str) : Program JsonError SeenIds Command Unit :=
  Program.tryCatch
    (do
      let _ ← Program.ofExcept (handleDiagnosis env payload)
      pure ())
    (fun _ => pure ())

def alreadySeenBody (correlationId : Str) : Program JsonError SeenIds Command Bool :=
  fun seen => ⟨.ok (alreadySeen seen correlationId).1, (alreadySeen seen correlationId).2, []⟩

/-- The body of the loop for one message. The commands given to `route` are the trace. -/
def consumeMessage (env : Env) (message : Message) : Program JsonError SeenIds Command Unit :=
  if message.topic = diagnosisTopic env.uin then handleDiagnosisBody env message.payload
  else do
    let (parsed, cmd) ←
      Program.withLocal emptyCommand (parseCommandBody env message.payload)
    if !parsed then pure ()
    else if ← alreadySeenBody cmd.correlationId then pure ()
    else Program.emit fun _ => cmd

def consume (env : Env) : List Turn → Program JsonError SeenIds Command Unit
  | [] => pure ()
  | .timeout :: rest => consume env rest
  | .nothing :: rest => consume env rest
  | .consumed message :: rest => do
    consumeMessage env message
    consume env rest

def isGenuine (env : Env) (message : Message) : Bool :=
  message.topic ≠ diagnosisTopic env.uin && (parseCommand env message.payload emptyCommand).1

def genuineTurns (env : Env) (turns : List Turn) : List Turn :=
  turns.filter fun turn =>
    match turn with
    | .consumed message => isGenuine env message
    | _ => true

theorem parseCommandBody_run (env : Env) (payload : Str) (out : Command) :
    parseCommandBody env payload out =
      ⟨.ok (parseCommand env payload out).1, (parseCommand env payload out).2, []⟩ := by
  unfold parseCommandBody parseCommand
  cases readCommand env payload <;> rfl

private theorem handleDiagnosisBody_run (env : Env) (payload : Str) (seen : SeenIds) :
    handleDiagnosisBody env payload seen = ⟨.ok (), seen, []⟩ := by
  unfold handleDiagnosisBody
  cases handleDiagnosis env payload <;> rfl

def routed? : Handled → Option Command
  | .accepted cmd _ => some cmd
  | _ => none

theorem consumeMessage_run (env : Env) (message : Message) (seen : SeenIds) :
    consumeMessage env message seen =
      ⟨.ok (), (handle env seen message).2, (routed? (handle env seen message).1).toList⟩ := by
  unfold consumeMessage handle
  by_cases htopic : message.topic = diagnosisTopic env.uin
  · rw [if_pos htopic, if_pos htopic]
    exact handleDiagnosisBody_run env message.payload seen
  · rw [if_neg htopic, if_neg htopic,
      Program.bind_ok (Program.withLocal_ok (parseCommandBody_run env message.payload _) seen)]
    cases hparse : parseCommand env message.payload emptyCommand with
    | mk parsed cmd =>
      cases parsed with
      | false => rfl
      | true =>
        cases hseen : alreadySeen seen cmd.correlationId with
        | mk duplicate after =>
          have hguard : alreadySeenBody cmd.correlationId seen = ⟨.ok duplicate, after, []⟩ := by
            rw [alreadySeenBody, hseen]
          simp only [Bool.not_true, Bool.false_eq_true, if_false, Program.bind_ok hguard, hseen]
          cases duplicate <;> rfl

def routedCommands (records : List Record) : List Command :=
  records.filterMap (routed? ·.handled)

theorem routedCommands_cons (record : Record) (records : List Record) :
    routedCommands (record :: records) =
      (routed? record.handled).toList ++ routedCommands records := by
  unfold routedCommands
  cases hcmd : routed? record.handled <;> simp [hcmd]

theorem consume_run (env : Env) (turns : List Turn) (seen : SeenIds) :
    consume env turns seen =
      ⟨.ok (), seen.rememberAll (consumedIds (run env seen turns)),
        routedCommands (run env seen turns)⟩ := by
  induction turns generalizing seen with
  | nil => rfl
  | cons turn rest ih =>
    cases turn with
    | timeout | nothing => exact ih seen
    | consumed message =>
      rw [consume, Program.bind_ok (consumeMessage_run env message seen), ih, run_consumed,
        routedCommands_cons, consumedIds_cons, CappedSet.rememberAll_append, ← handle_seen]
      rfl

private theorem consumeMessage_invisible {env : Env} {message : Message}
    (h : isGenuine env message = false) (seen : SeenIds) :
    consumeMessage env message seen = ⟨.ok (), seen, []⟩ := by
  rw [consumeMessage_run]
  unfold isGenuine parseCommand at h
  have hhandles := handle_handles env seen message
  generalize handle env seen message = result at hhandles
  cases hhandles with
  | diagnosis | malformed => rfl
  | duplicate htopic cmd hread | accepted htopic cmd hread => simp [htopic, hread] at h

private theorem consume_genuineTurns (env : Env) (turns : List Turn) (seen : SeenIds) :
    consume env (genuineTurns env turns) seen = consume env turns seen := by
  induction turns generalizing seen with
  | nil => rfl
  | cons turn rest ih =>
    cases turn with
    | timeout | nothing => exact ih seen
    | consumed message =>
      cases hgenuine : isGenuine env message with
      | false =>
        have hfilter : genuineTurns env (.consumed message :: rest) = genuineTurns env rest := by
          simp [genuineTurns, hgenuine]
        rw [hfilter, ih, consume, Program.bind_ok (consumeMessage_invisible hgenuine seen)]
        rfl
      | true =>
        have hfilter : genuineTurns env (.consumed message :: rest) =
            .consumed message :: genuineTurns env rest := by
          simp [genuineTurns, hgenuine]
        have hfirst := consumeMessage_run env message seen
        rw [hfilter, consume, consume, Program.bind_ok hfirst, Program.bind_ok hfirst, ih]

/-- No payload lets an exception out of the loop, a rejected payload leaves the output of
`parse_command` alone, and without the diagnoses and the malformed messages the same
commands are routed and the same ids remembered. -/
theorem malformed_messages_invisible (env : Env) (seen : SeenIds) (turns : List Turn) :
    (consume env turns seen).outcome = .ok () ∧
      (∀ payload out, (parseCommandBody env payload out).outcome = .ok false →
        (parseCommandBody env payload out).state = out) ∧
      (consume env turns seen).trace = (consume env (genuineTurns env turns) seen).trace ∧
      (consume env turns seen).state = (consume env (genuineTurns env turns) seen).state := by
  refine ⟨?_, ?_, ?_, ?_⟩
  · rw [consume_run]
  · intro payload out hrejected
    rw [parseCommandBody_run] at hrejected ⊢
    unfold parseCommand at hrejected ⊢
    cases hread : readCommand env payload with
    | error e => rfl
    | ok cmd =>
      rw [hread] at hrejected
      cases hrejected
  · rw [consume_genuineTurns]
  · rw [consume_genuineTurns]

end SdvGateway.Gateway.MalformedMessages

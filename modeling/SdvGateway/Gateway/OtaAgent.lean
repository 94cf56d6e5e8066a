import Mathlib.Logic.Function.Basic
import SdvGateway.Gateway.FirmwareHash
import SdvGateway.Library.Execution
import SdvGateway.Library.FileCopy

/-! The OTA worker. What the network, the file system and the broker do to one
command is an input; everything the worker does with it is computed. Every
state of the three files that an observer can meet is in the trace. -/
namespace SdvGateway.Gateway.OtaAgent
open Common FirmwareHash Library

inductive Path where
  | firmware
  | backup
  | installed
deriving DecidableEq

/-- Contents by path, `none` where there is no file. -/
abbrev Files := Path → Option Bytes

inductive Exception where
  | filesystemError
  | jsonTypeError
deriving DecidableEq

/-- How the world answers while one command is processed. `space` is what
`std::filesystem::space` finds available, `none` when it throws. `received`
holds what each write callback leaves in the file. -/
structure Outcomes where
  space : Option Nat
  curlInit : Bool
  fopen : Bool
  received : List Bytes
  performOk : Bool
  httpCode : Int
  verifyOpens : Bool
  removeOk : Bool
  backup : FileCopy.Outcome
  flash : FileCopy.Outcome
  rollback : FileCopy.Outcome
  published : OtaState → Bool

inductive Event where
  | report (correlationId : Str) (status : OtaStatus) (message : Message) (published : Bool)
  | downloadOpened
  | downloadWrote (chunk : Bytes)
  | verified (accepted : Bool)
  | removed
  | copyBegins (source destination : Path)
  | copying (source destination : Path)
deriving DecidableEq

structure Moment where
  event : Event
  files : Files

abbrev Ota := Program Exception Files Moment

structure Env where
  json : JsonText
  sha : Sha256
  uin : Str

def note (event : Event) : Ota Unit := Program.emit (⟨event, ·⟩)

def stateToStr : OtaState → Str
  | .idle => lit "IDLE"
  | .manifestReceived => lit "MANIFEST_RECEIVED"
  | .downloading => lit "DOWNLOADING"
  | .verifying => lit "VERIFYING"
  | .installing => lit "INSTALLING"
  | .complete => lit "COMPLETE"
  | .failed => lit "FAILED"
  | .rolledBack => lit "ROLLED_BACK"

def statusTopic (uin : Str) : Str := lit "sdv/ota/from/uin/" ++ uin ++ lit "/status"

def statusJson (correlationId : Str) (status : OtaStatus) : Json :=
  .object [
    (lit "correlation_id", .string correlationId),
    (lit "error_msg", .string status.errorMsg),
    (lit "fw_version", .string status.fwVersion),
    (lit "progress_pct", .integer status.progressPct),
    (lit "state", .string (stateToStr status.state))]

/-- A failed publish is caught and logged; a failed `dump` is not. -/
def reportStatus (env : Env) (o : Outcomes) (correlationId : Str) (status : OtaStatus) :
    Ota Unit :=
  match env.json.dump (statusJson correlationId status) with
  | .ok text =>
    note (.report correlationId status ⟨statusTopic env.uin, text⟩ (o.published status.state))
  | .error _ => Program.throw .jsonTypeError

def minFreeBytes : Nat := 100 * 1024 * 1024

/-- `std::filesystem::space` is the throwing overload, outside any `try`. -/
def checkPreconditions (o : Outcomes) : Ota Bool :=
  match o.space with
  | none => Program.throw .filesystemError
  | some available => pure (minFreeBytes ≤ available)

def setFirmware (bytes : Bytes) : Ota Unit :=
  Program.modify (Function.update · .firmware (some bytes))

def writeFirmware : Bytes → List Bytes → Ota Unit
  | _, [] => pure ()
  | written, chunk :: rest => do
    setFirmware (written ++ chunk)
    note (.downloadWrote chunk)
    writeFirmware (written ++ chunk) rest

/-- `fopen(.., "wb")` truncates; the body then arrives through the callback. -/
def downloadFirmware (o : Outcomes) (_url : Str) : Ota Bool :=
  if !o.curlInit then pure false
  else if !o.fopen then pure false
  else do
    setFirmware []
    note .downloadOpened
    writeFirmware [] o.received
    if !o.performOk then pure false
    else if o.httpCode ≠ 200 then pure false
    else pure true

def verifySha256 (env : Env) (o : Outcomes) (expectedHash : Str) : Ota Bool :=
  fun files =>
    let accepted :=
      match files .firmware with
      | some bytes => o.verifyOpens && (hashFile env.sha bytes).map hex == some expectedHash
      | none => false
    ⟨.ok accepted, files, [⟨.verified accepted, files⟩]⟩

/-- `std::filesystem::copy_file` with `overwrite_existing`. -/
def copyFile (outcome : FileCopy.Outcome) (source destination : Path) : Ota Unit :=
  fun files =>
    let begins : Moment := ⟨.copyBegins source destination, files⟩
    match files source with
    | none => ⟨.error .filesystemError, files, [begins]⟩
    | some bytes =>
      ⟨if outcome.succeeded then .ok () else .error .filesystemError,
        Function.update files destination (outcome.result bytes (files destination)),
        begins :: (outcome.contents bytes).map fun content =>
          ⟨.copying source destination, Function.update files destination (some content)⟩⟩

def backupCurrent (o : Outcomes) : Ota Bool :=
  Program.tryCatch
    (do copyFile o.backup .installed .backup; pure true)
    (fun _ => pure false)

def rollback (o : Outcomes) : Ota Bool :=
  Program.tryCatch
    (do copyFile o.rollback .backup .installed; pure true)
    (fun _ => pure false)

/-- The result of the rollback is dropped. -/
def flashFirmware (o : Outcomes) : Ota Bool :=
  Program.tryCatch
    (do copyFile o.flash .firmware .installed; pure true)
    (fun _ => do let _ ← rollback o; pure false)

def removeFirmware (o : Outcomes) : Ota Unit :=
  fun files =>
    if o.removeOk then
      let after := Function.update files .firmware none
      ⟨.ok (), after, [⟨.removed, after⟩]⟩
    else ⟨.error .filesystemError, files, []⟩

structure Manifest where
  url : Str
  sha256 : Str
  version : Str

def parseManifest (env : Env) (payloadJson : Str) : Except JsonError Manifest := do
  let j ← env.json.parse payloadJson
  let url ← (← j.at_ (lit "url")).getString
  let sha256 ← (← j.at_ (lit "sha256")).getString
  let version ← j.valueString (lit "version") (lit "unknown")
  pure ⟨url, sha256, version⟩

def installFirmware (env : Env) (o : Outcomes) (correlationId : Str) (manifest : Manifest) :
    Ota Unit := do
  let report := reportStatus env o correlationId
  report ⟨.verifying, manifest.version, [], 50⟩
  if !(← verifySha256 env o manifest.sha256) then
    report ⟨.failed, manifest.version, lit "SHA256 mismatch — firmware rejected", 0⟩
    removeFirmware o
  else if !(← backupCurrent o) then
    report ⟨.failed, manifest.version, lit "Backup failed — OTA aborted", 0⟩
  else
    report ⟨.installing, manifest.version, [], 75⟩
    if !(← flashFirmware o) then
      report ⟨.rolledBack, manifest.version,
        lit "Flash failed — rolled back to previous firmware", 0⟩
    else
      report ⟨.complete, manifest.version, [], 100⟩

def applyManifest (env : Env) (o : Outcomes) (correlationId : Str) (manifest : Manifest) :
    Ota Unit := do
  let report := reportStatus env o correlationId
  report ⟨.manifestReceived, manifest.version, [], 0⟩
  if !(← checkPreconditions o) then
    report ⟨.failed, manifest.version, lit "Preconditions not met", 0⟩
  else
    report ⟨.downloading, manifest.version, [], 10⟩
    if !(← downloadFirmware o manifest.url) then
      report ⟨.failed, manifest.version, lit "Download failed", 0⟩
    else
      installFirmware env o correlationId manifest

def processCommand (env : Env) (o : Outcomes) (cmd : Command) : Ota Unit :=
  match parseManifest env cmd.payloadJson with
  | .error _ => reportStatus env o cmd.correlationId
      ⟨.failed, [], lit "Invalid manifest JSON", 0⟩
  | .ok manifest => applyManifest env o cmd.correlationId manifest

/-- One turn of `while (running_)`: `pop_for` times out or yields a command. -/
inductive Turn where
  | timeout
  | command (cmd : Command) (o : Outcomes)

structure Record where
  command : Command
  outcomes : Outcomes
  before : Files
  execution : Execution Exception Files Moment Unit

def process (env : Env) (files : Files) (cmd : Command) (o : Outcomes) : Record :=
  ⟨cmd, o, files, processCommand env o cmd files⟩

/-- The worker thread. An exception that leaves `run` ends it. -/
def run (env : Env) : Files → List Turn → List Record
  | _, [] => []
  | files, .timeout :: rest => run env files rest
  | files, .command cmd o :: rest =>
    let record := process env files cmd o
    match record.execution.outcome with
    | .ok _ => record :: run env record.execution.state rest
    | .error _ => [record]

def Record.after (record : Record) : Files := record.execution.state

def Record.moments (record : Record) : List Moment := record.execution.trace

def reports (moments : List Moment) : List (Str × OtaStatus) :=
  moments.filterMap fun moment =>
    match moment.event with
    | .report correlationId status _ _ => some (correlationId, status)
    | _ => none

end SdvGateway.Gateway.OtaAgent

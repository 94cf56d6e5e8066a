import SdvGateway.Gateway.OtaImage
import SdvGateway.Gateway.PayloadTexts

/-! The language of the status topic. An observer that reads nothing but the texts can
follow every update and learns how each of them ended, unless the broker loses some. -/
namespace SdvGateway.Gateway.OtaProtocol
open Common Library JsonLexer OtaAgent OtaFlow OtaStatus OtaImage PayloadTexts

def transitions : List (OtaState × OtaState × Str × Int) := [
  (.idle, .manifestReceived, [], 0),
  (.idle, .failed, lit "Invalid manifest JSON", 0),
  (.manifestReceived, .downloading, [], 10),
  (.manifestReceived, .failed, lit "Preconditions not met", 0),
  (.downloading, .verifying, [], 50),
  (.downloading, .failed, lit "Download failed", 0),
  (.verifying, .installing, [], 75),
  (.verifying, .failed, lit "SHA256 mismatch — firmware rejected", 0),
  (.verifying, .failed, lit "Backup failed — OTA aborted", 0),
  (.installing, .rolledBack, lit "Flash failed — rolled back to previous firmware", 0),
  (.installing, .complete, [], 100)]

def states : List OtaState :=
  [.idle, .manifestReceived, .downloading, .verifying, .installing, .complete, .failed,
    .rolledBack]

def getInteger : Json → Except JsonError Int
  | .integer n => .ok n
  | _ => .error .typeError

def readStatus (json : JsonText) (text : Str) : Except JsonError (Str × OtaStatus) := do
  let j ← json.parse text
  let correlationId ← (← j.at_ (lit "correlation_id")).getString
  let name ← (← j.at_ (lit "state")).getString
  let fwVersion ← (← j.at_ (lit "fw_version")).getString
  let errorMsg ← (← j.at_ (lit "error_msg")).getString
  let progressPct ← getInteger (← j.at_ (lit "progress_pct"))
  match states.find? (stateToStr · = name) with
  | some state => pure (correlationId, ⟨state, fwVersion, errorMsg, progressPct⟩)
  | none => .error .outOfRange

/-- The update in progress with its id and version, and how the earlier ones ended. -/
structure Observer where
  current : Option (Str × Str × OtaState)
  ended : List (Str × OtaState)
deriving DecidableEq

namespace Observer

def state (observer : Observer) : OtaState :=
  match observer.current with
  | some (_, _, state) => state
  | none => .idle

/-- A status of another update may not come between those of the current one. -/
def belongs (observer : Observer) (correlationId version : Str) : Bool :=
  match observer.current with
  | some (id, fwVersion, _) => id == correlationId && fwVersion == version
  | none => true

def see (observer : Observer) (report : Str × OtaStatus) : Option Observer :=
  let (id, status) := report
  if observer.belongs id status.fwVersion &&
      transitions.contains (observer.state, status.state, status.errorMsg, status.progressPct) then
    some (if terminal status.state then ⟨none, observer.ended ++ [(id, status.state)]⟩
      else ⟨some (id, status.fwVersion, status.state), observer.ended⟩)
  else none

def read (json : JsonText) (observer : Observer) (text : Str) : Option Observer :=
  match readStatus json text with
  | .ok report => observer.see report
  | .error _ => none

end Observer

/-- What the worker hands to the client of the broker. -/
def messages (moments : List Moment) : List Message :=
  moments.filterMap fun moment =>
    match moment.event with
    | .report _ _ message _ => some message
    | _ => none

/-- What of that the broker took. -/
def publishedMessages (moments : List Moment) : List Message :=
  moments.filterMap fun moment =>
    match moment.event with
    | .report _ _ message true => some message
    | _ => none

def verdict (record : Record) : Option (Str × OtaState) :=
  (lastStatus record).bind fun status =>
    if terminal status.state then some (record.command.correlationId, status.state) else none

private theorem readStatus_of_parse {json : JsonText} {text correlationId : Str}
    {status : OtaStatus} (hparse : json.parse text = .ok (statusJson correlationId status)) :
    readStatus json text = .ok (correlationId, status) := by
  have hkeys : lit "correlation_id" ≠ lit "error_msg" ∧ lit "correlation_id" ≠ lit "fw_version" ∧
      lit "correlation_id" ≠ lit "progress_pct" ∧ lit "correlation_id" ≠ lit "state" ∧
      lit "error_msg" ≠ lit "fw_version" ∧ lit "error_msg" ≠ lit "progress_pct" ∧
      lit "error_msg" ≠ lit "state" ∧ lit "fw_version" ≠ lit "progress_pct" ∧
      lit "fw_version" ≠ lit "state" ∧ lit "progress_pct" ≠ lit "state" := by decide
  have hstate : states.find? (stateToStr · = stateToStr status.state) = some status.state := by
    cases status.state <;> decide
  simp only [readStatus, bind_eq_ok]
  refine ⟨_, hparse, .string correlationId, ?_, correlationId, rfl,
    .string (stateToStr status.state), ?_, _, rfl, .string status.fwVersion, ?_, _, rfl,
    .string status.errorMsg, ?_, _, rfl, .integer status.progressPct, ?_, _, rfl, ?_⟩
  · simp [statusJson, Json.at_, Json.member?]
  · simp [statusJson, Json.at_, Json.member?, hkeys]
  · simp [statusJson, Json.at_, Json.member?, hkeys]
  · simp [statusJson, Json.at_, Json.member?, hkeys]
  · simp [statusJson, Json.at_, Json.member?, hkeys]
  · rw [hstate]
    rfl

theorem read_messages {floats : FloatText} {moments : List Moment}
    (h : ∀ moment ∈ moments, Readable floats moment) (observer : Observer) :
    ((messages moments).map (·.payload)).foldlM (Observer.read floats.json) observer =
      (reports moments).foldlM Observer.see observer := by
  induction moments generalizing observer with
  | nil => rfl
  | cons moment rest ih =>
    obtain ⟨hfirst, hrest⟩ := List.forall_mem_cons.mp h
    cases hevent : moment.event with
    | report id status message published =>
      have hmessages : messages (moment :: rest) = message :: messages rest := by
        simp [messages, hevent]
      have hreports : reports (moment :: rest) = (id, status) :: reports rest := by
        simp [reports, hevent]
      have hread : observer.read floats.json message.payload = observer.see (id, status) := by
        rw [Observer.read, readStatus_of_parse (hfirst id status message published hevent)]
      rw [hmessages, hreports, List.map_cons, List.foldlM_cons, List.foldlM_cons, hread]
      cases observer.see (id, status) with
      | none => rfl
      | some after => exact ih hrest after
    | _ =>
      have hmessages : messages (moment :: rest) = messages rest := by simp [messages, hevent]
      have hreports : reports (moment :: rest) = reports rest := by simp [reports, hevent]
      rw [hmessages, hreports]
      exact ih hrest observer

def Observer.after (ended : List (Str × OtaState)) (id version : Str) (state : OtaState) :
    Observer :=
  if terminal state then ⟨none, ended ++ [(id, state)]⟩ else ⟨some (id, version, state), ended⟩

theorem see_first (ended : List (Str × OtaState)) (id version : Str) (state : OtaState)
    (message : Str) (progress : Int)
    (h : transitions.contains (.idle, state, message, progress) = true) :
    (⟨none, ended⟩ : Observer).see (id, ⟨state, version, message, progress⟩) =
      some (Observer.after ended id version state) := by
  simp only [Observer.see, Observer.belongs, Observer.state, h, Bool.and_self, if_true,
    Observer.after]

theorem see_next (ended : List (Str × OtaState)) (id version : Str) (state state' : OtaState)
    (message : Str) (progress : Int)
    (h : transitions.contains (state, state', message, progress) = true) :
    (⟨some (id, version, state), ended⟩ : Observer).see
        (id, ⟨state', version, message, progress⟩) =
      some (Observer.after ended id version state') := by
  simp only [Observer.see, Observer.belongs, Observer.state, h, BEq.rfl, Bool.and_self, if_true,
    Observer.after]

theorem see_single (observer : Observer) (report : Str × OtaStatus) :
    [report].foldlM Observer.see observer = observer.see report := by
  rw [List.foldlM_cons]
  cases observer.see report <;> rfl

theorem see_snoc {reports : List (Str × OtaStatus)} {observer middle : Observer}
    (h : reports.foldlM Observer.see observer = some middle) (report : Str × OtaStatus) :
    (reports ++ [report]).foldlM Observer.see observer = middle.see report := by
  rw [List.foldlM_append, h]
  exact see_single middle report

section
variable (ended : List (Str × OtaState)) (id version : Str)

theorem see_received :
    [(id, (⟨.manifestReceived, version, [], 0⟩ : OtaStatus))].foldlM Observer.see ⟨none, ended⟩ =
      some ⟨some (id, version, .manifestReceived), ended⟩ :=
  (see_single _ _).trans (see_first ended id version .manifestReceived [] 0 (by decide))

theorem see_begun : (begun id version).foldlM Observer.see ⟨none, ended⟩ =
    some ⟨some (id, version, .downloading), ended⟩ :=
  (see_snoc (see_received ended id version) _).trans
    (see_next ended id version .manifestReceived .downloading [] 10 (by decide))

theorem see_checked : (checked id version).foldlM Observer.see ⟨none, ended⟩ =
    some ⟨some (id, version, .verifying), ended⟩ :=
  (see_snoc (see_begun ended id version) _).trans
    (see_next ended id version .downloading .verifying [] 50 (by decide))

theorem see_installing : (installing id version).foldlM Observer.see ⟨none, ended⟩ =
    some ⟨some (id, version, .installing), ended⟩ :=
  (see_snoc (see_checked ended id version) _).trans
    (see_next ended id version .verifying .installing [] 75 (by decide))

end

/-- What the reports of one command do to an observer: either an update is followed to its
verdict, or the worker has thrown before it. -/
structure Followed (ended : List (Str × OtaState)) (record : Record) : Prop where
  seen : ∃ current, (reports record.moments).foldlM Observer.see ⟨none, ended⟩ =
    some ⟨current, ended ++ (verdict record).toList⟩ ∧
      (record.execution.outcome = .ok () → current = none)
  judged : record.execution.outcome = .ok () →
    ∃ state, verdict record = some (record.command.correlationId, state)

private theorem followed_verdict {ended : List (Str × OtaState)} {record : Record}
    {earlier : List (Str × OtaStatus)} {version message : Str} {state : OtaState} {progress : Int}
    (hreports : reports record.moments =
      earlier ++ [(record.command.correlationId, ⟨state, version, message, progress⟩)])
    (hterminal : terminal state = true)
    (hseen : (earlier ++ [(record.command.correlationId,
        (⟨state, version, message, progress⟩ : OtaStatus))]).foldlM Observer.see ⟨none, ended⟩ =
      some (Observer.after ended record.command.correlationId version state)) :
    Followed ended record := by
  have hverdict : verdict record = some (record.command.correlationId, state) := by
    simp [verdict, lastStatus, hreports, hterminal]
  refine ⟨⟨none, ?_, fun _ => rfl⟩, fun _ => ⟨state, hverdict⟩⟩
  rw [hreports, hseen, hverdict, Observer.after, if_pos hterminal]
  rfl

theorem flow_followed {env : Env} {record : Record} (ended : List (Str × OtaState))
    (h : Flow env record.outcomes record.command record.before record.execution) :
    Followed ended record := by
  obtain ⟨cmd, o, before, execution⟩ := record
  dsimp only at h
  cases h with
  | unprintable h =>
    refine ⟨⟨none, by simp [Record.moments, verdict, lastStatus, reports], ?_⟩, ?_⟩ <;>
      exact fun h => by cases h
  | badManifest e hmanifest hprintable =>
    have hnil : ([] : List (Str × OtaStatus)).foldlM Observer.see ⟨none, ended⟩ =
        some ⟨none, ended⟩ := rfl
    exact followed_verdict rfl rfl ((see_snoc hnil _).trans
      (see_first ended _ [] .failed (lit "Invalid manifest JSON") 0 (by decide)))
  | spaceThrew manifest hmanifest hprintable hspace =>
    refine ⟨⟨some (cmd.correlationId, manifest.version, .manifestReceived), ?_,
      fun h => by cases h⟩, fun h => by cases h⟩
    have hverdict : verdict ⟨cmd, o, before, ⟨.error .filesystemError, before,
        [reportMoment env o cmd.correlationId ⟨.manifestReceived, manifest.version, [], 0⟩
          before]⟩⟩ = none := rfl
    rw [hverdict]
    exact (see_received ended _ _).trans (by simp)
  | deferred manifest hmanifest hprintable available hspace hlow =>
    exact followed_verdict rfl rfl ((see_snoc (see_received ended _ manifest.version) _).trans
      (see_next ended _ _ .manifestReceived .failed _ 0 (by decide)))
  | notDownloaded manifest hmanifest hprintable available hspace partly moments hfail hdownload =>
    refine followed_verdict ?_ rfl ((see_snoc (see_begun ended _ manifest.version) _).trans
      (see_next ended _ _ .downloading .failed (lit "Download failed") 0 (by decide)))
    simp only [Record.moments, reports_append, (downloadFirmware_frame hdownload).1]
    rfl
  | rejected manifest hchecked hremove =>
    refine followed_verdict ?_ rfl ((see_snoc (see_checked ended _ manifest.version) _).trans
      (see_next ended _ _ .verifying .failed (lit "SHA256 mismatch — firmware rejected") 0
        (by decide)))
    simp only [Record.moments, reports_append, reports_flow_checked]
    rfl
  | removeThrew manifest hchecked hremove =>
    refine followed_verdict ?_ rfl ((see_snoc (see_checked ended _ manifest.version) _).trans
      (see_next ended _ _ .verifying .failed (lit "SHA256 mismatch — firmware rejected") 0
        (by decide)))
    simp only [Record.moments, reports_append, reports_flow_checked]
    rfl
  | notBackedUp manifest hchecked hbackup =>
    refine followed_verdict ?_ rfl ((see_snoc (see_checked ended _ manifest.version) _).trans
      (see_next ended _ _ .verifying .failed (lit "Backup failed — OTA aborted") 0 (by decide)))
    simp only [Record.moments, reports_append, reports_flow_checked, reports_copyMoments,
      List.append_nil]
    rfl
  | flashFailed manifest hchecked hbackup hflash =>
    refine followed_verdict ?_ rfl ((see_snoc (see_installing ended _ manifest.version) _).trans
      (see_next ended _ _ .installing .rolledBack
        (lit "Flash failed — rolled back to previous firmware") 0 (by decide)))
    simp only [Record.moments, reports_append, reports_installingMoments, reports_copyMoments,
      List.append_nil]
    rfl
  | complete manifest hchecked hbackup hflash =>
    refine followed_verdict ?_ rfl ((see_snoc (see_installing ended _ manifest.version) _).trans
      (see_next ended _ _ .installing .complete [] 100 (by decide)))
    simp only [Record.moments, reports_append, reports_installingMoments]
    rfl

def stream (records : List Record) : List Moment := records.flatMap Record.moments

theorem run_followed (env : Env) (files : Files) (turns : List Turn)
    (ended : List (Str × OtaState)) :
    ∃ current, (reports (stream (run env files turns))).foldlM Observer.see ⟨none, ended⟩ =
      some ⟨current, ended ++ (run env files turns).filterMap verdict⟩ ∧
        ((∀ record ∈ run env files turns, record.execution.outcome = .ok ()) →
          current = none) := by
  induction turns generalizing files ended with
  | nil => exact ⟨none, by simp [run, stream, reports], fun _ => rfl⟩
  | cons turn rest ih =>
    cases turn with
    | timeout => exact ih files ended
    | command cmd o =>
      have hfollowed : Followed ended (process env files cmd o) :=
        flow_followed ended (processCommand_flow env o cmd files)
      obtain ⟨current, hseen, hcurrent⟩ := hfollowed.seen
      cases houtcome : (process env files cmd o).execution.outcome with
      | ok _ =>
        have hrun : run env files (.command cmd o :: rest) = process env files cmd o ::
            run env (process env files cmd o).execution.state rest := by
          simp [run, houtcome]
        obtain ⟨last, hlast, hnone⟩ := ih (process env files cmd o).execution.state
          (ended ++ (verdict (process env files cmd o)).toList)
        rw [hrun]
        refine ⟨last, ?_, fun hall => hnone fun record h => hall record (List.mem_cons_of_mem _ h)⟩
        rw [stream, List.flatMap_cons, reports_append, List.foldlM_append, hseen,
          hcurrent houtcome]
        refine hlast.trans ?_
        rw [List.append_assoc]
        cases hverdict : verdict (process env files cmd o) <;> simp [hverdict]
      | error e =>
        have hrun : run env files (.command cmd o :: rest) = [process env files cmd o] := by
          simp [run, houtcome]
        rw [hrun]
        refine ⟨current, ?_, fun hall => ?_⟩
        · rw [stream, List.flatMap_singleton, hseen]
          cases hverdict : verdict (process env files cmd o) <;> simp [hverdict]
        · have hok := hall _ List.mem_cons_self
          rw [houtcome] at hok
          cases hok

theorem verdict_ids {records : List Record}
    (h : ∀ record ∈ records, ∃ state,
      verdict record = some (record.command.correlationId, state)) :
    (records.filterMap verdict).map Prod.fst = records.map (·.command.correlationId) := by
  induction records with
  | nil => rfl
  | cons record rest ih =>
    obtain ⟨⟨state, hverdict⟩, hrest⟩ := List.forall_mem_cons.mp h
    rw [List.filterMap_cons_some hverdict, List.map_cons, List.map_cons, ih hrest]

theorem published_sublist (moments : List Moment) :
    (publishedMessages moments).Sublist (messages moments) := by
  induction moments with
  | nil => exact .slnil
  | cons moment rest ih =>
    unfold publishedMessages messages at ih ⊢
    cases hevent : moment.event with
    | report id status message published =>
      cases published with
      | true => simpa [hevent] using ih.cons_cons message
      | false => simpa [hevent] using ih.cons message
    | _ => simpa [hevent] using ih

theorem published_messages {moments : List Moment}
    (h : ∀ moment ∈ moments, Reported (fun _ _ _ published => published = true) moment) :
    publishedMessages moments = messages moments := by
  refine List.filterMap_congr fun moment hmoment => ?_
  have hreported := h moment hmoment
  cases hevent : moment.event with
  | report id status message published =>
    rw [hreported id status message published hevent]
  | _ => rfl

def takesAll : Turn → Prop
  | .command _ o => ∀ state, o.published state = true
  | .timeout => True

private theorem taken_of_mem_run {env : Env} {files : Files} {turns : List Turn}
    (h : ∀ turn ∈ turns, takesAll turn) {record : Record} (hrecord : record ∈ run env files turns) :
    ∀ state, record.outcomes.published state = true := by
  induction turns generalizing files with
  | nil => cases hrecord
  | cons turn rest ih =>
    obtain ⟨hfirst, hrest⟩ := List.forall_mem_cons.mp h
    cases turn with
    | timeout => exact ih hrest hrecord
    | command cmd o =>
      simp only [run] at hrecord
      split at hrecord
      · rcases List.mem_cons.mp hrecord with rfl | hrecord
        · exact hfirst
        · exact ih hrest hrecord
      · rw [List.mem_singleton.mp hrecord]
        exact hfirst

/-- Over a whole run, an observer that parses the texts handed to the client and accepts
only the statuses of the protocol is never surprised. It learns, in the order of the queue,
how each command ended that got a verdict; where no exception ended the worker these are all
of them, and no update is left open. The published texts are some of these in their order,
and all of them where no publish fails. -/
theorem status_stream_followed (floats : FloatText) (sha : FirmwareHash.Sha256) (uin : Str)
    (files : Files) (turns : List Turn) :
    let records := run ⟨floats.json, sha, uin⟩ files turns
    let moments := stream records
    (∃ observer, ((messages moments).map (·.payload)).foldlM
        (Observer.read floats.json) ⟨none, []⟩ = some observer ∧
      observer.ended = records.filterMap verdict ∧
      ((∀ record ∈ records, record.execution.outcome = .ok ()) → observer.current = none ∧
        observer.ended.map Prod.fst = records.map (·.command.correlationId))) ∧
      (publishedMessages moments).Sublist (messages moments) ∧
      ((∀ turn ∈ turns, takesAll turn) → publishedMessages moments = messages moments) := by
  intro records moments
  refine ⟨?_, published_sublist _, fun htaken => published_messages fun moment hmoment => ?_⟩
  · have hreadable : ∀ moment ∈ moments, Readable floats moment := by
      intro moment hmoment
      obtain ⟨record, hrecord, hmoment⟩ := List.mem_flatMap.mp hmoment
      obtain ⟨start, heq⟩ := record_of_mem_run hrecord
      rw [heq] at hmoment
      exact reads_processCommand record.outcomes record.command start moment hmoment
    obtain ⟨current, hseen, hcurrent⟩ := run_followed ⟨floats.json, sha, uin⟩ files turns []
    refine ⟨⟨current, records.filterMap verdict⟩, ?_, rfl, fun hall => ⟨hcurrent hall, ?_⟩⟩
    · rw [read_messages hreadable]
      exact hseen
    · exact verdict_ids fun record hrecord =>
        (flow_followed [] (flow_of_mem_run hrecord)).judged (hall record hrecord)
  · obtain ⟨record, hrecord, hmoment⟩ := List.mem_flatMap.mp hmoment
    obtain ⟨start, heq⟩ := record_of_mem_run hrecord
    rw [heq] at hmoment
    intro id status message published hevent
    rw [published_processCommand _ record.outcomes record.command start moment hmoment id status
      message published hevent]
    exact taken_of_mem_run htaken hrecord status.state

end SdvGateway.Gateway.OtaProtocol

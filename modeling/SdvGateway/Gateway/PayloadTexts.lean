import SdvGateway.Cloud.Dumps
import SdvGateway.Common.JsonRoundTrip
import SdvGateway.Gateway.Downlink
import SdvGateway.Gateway.OtaShutdown

/-! Commands with the parser in place: from the text that Python writes to the manifest
that the OTA worker reads, and to the texts of its reports. -/
namespace SdvGateway.Gateway.PayloadTexts
open Common Cloud Library JsonLexer JsonParser CommandHandler SendCommand
open OtaAgent (Ota Files Moment Manifest Outcomes parseManifest reportStatus statusJson)

theorem member_canonical {key : Str} {members : List (Str × Json)} {value : Json}
    (h : (Json.object members).Canonical) (hmember : Json.member? key members = some value) :
    value.Canonical := by
  have hall := Json.storedMembers_iff.mp h.2
  clear h
  induction members with
  | nil => cases hmember
  | cons member rest ih =>
    obtain ⟨hfirst, hrest⟩ := List.forall_mem_cons.mp hall
    rw [Json.member?] at hmember
    split at hmember
    · cases hmember
      exact hfirst.2
    · exact ih hmember hrest

private theorem getString_utf8 {j : Json} {s : Str} (hj : j.Canonical) (h : j.getString = .ok s) :
    isUtf8 s = true := by
  cases j with
  | string value =>
    cases h
    exact hj
  | _ => cases h

theorem valueString_utf8 {j : Json} {key fallback s : Str} (hj : j.Canonical)
    (hfallback : isUtf8 fallback = true) (h : j.valueString key fallback = .ok s) :
    isUtf8 s = true := by
  cases j with
  | object members =>
    rw [Json.valueString] at h
    split at h
    · next value hmember => exact getString_utf8 (member_canonical hj hmember) h
    · cases h
      exact hfallback
  | _ => cases h

theorem valueJson_canonical {j fallback value : Json} {key : Str} (hj : j.Canonical)
    (hfallback : fallback.Canonical) (h : j.valueJson key fallback = .ok value) :
    value.Canonical := by
  cases j with
  | object members =>
    rw [Json.valueJson] at h
    split at h
    · next found hmember =>
      cases h
      exact member_canonical hj hmember
    · cases h
      exact hfallback
  | _ => cases h

def manifestOf (j : Json) : Except JsonError Manifest := do
  let url ← (← j.at_ (lit "url")).getString
  let sha256 ← (← j.at_ (lit "sha256")).getString
  let version ← j.valueString (lit "version") (lit "unknown")
  pure ⟨url, sha256, version⟩

theorem parseManifest_of_parse {env : OtaAgent.Env} {text : Str} {j : Json}
    (h : env.json.parse text = .ok j) : parseManifest env text = manifestOf j := by
  rw [parseManifest, h]
  rfl

section
variable (floats : FloatText)

theorem readCommand_payload {uin payload : Str} {cmd : Command}
    (h : readCommand ⟨floats.json, uin⟩ payload = .ok cmd) :
    ∃ document inner, floats.json.parse payload = .ok document ∧
      document.valueJson (lit "payload") (.object []) = .ok inner ∧
      floats.json.parse cmd.payloadJson = .ok inner ∧ inner.Canonical ∧
      isUtf8 cmd.correlationId = true := by
  simp only [readCommand, bind_eq_ok] at h
  obtain ⟨document, hparse, _, _, typeStr, _, correlationId, hid, inner, hinner, text, hdump,
    hcmd⟩ := h
  cases hcmd
  have hdocument : document.Canonical := parse_canonical hparse
  have hempty : (Json.object []).Canonical := ⟨List.Pairwise.nil, trivial⟩
  have hcanonical := valueJson_canonical hdocument hempty hinner
  obtain ⟨hdump', hparse'⟩ := dump_canonical floats hcanonical
  rw [hdump'] at hdump
  cases hdump
  exact ⟨document, inner, hparse, hinner, hparse', hcanonical, valueString_utf8 hdocument rfl hid⟩

end

def Readable (floats : FloatText) (moment : Moment) : Prop :=
  ∀ correlationId status message published,
    moment.event = .report correlationId status message published →
    floats.json.parse message.payload = .ok (statusJson correlationId status)

abbrev ReportProperty := Str → OtaStatus → Message → Bool → Prop

def Reported (holds : ReportProperty) (moment : Moment) : Prop :=
  ∀ correlationId status message published,
    moment.event = .report correlationId status message published →
    holds correlationId status message published

def Reports (holds : ReportProperty) (program : Ota α) : Prop :=
  ∀ files, ∀ moment ∈ (program files).trace, Reported holds moment

section
variable {holds : ReportProperty}

theorem tells_pure (a : α) : Reports holds (pure a : Ota α) := by
  rintro files moment hmoment
  cases hmoment

theorem tells_bind {program : Ota α} {next : α → Ota β} (h : Reports holds program)
    (hnext : ∀ a, Reports holds (next a)) : Reports holds (program >>= next) := by
  intro files
  apply Program.bind_rule (P := fun run => ∀ moment ∈ run.trace, Reported holds moment)
  · intro e after trace hrun
    have htrace := h files
    rwa [hrun] at htrace
  · intro a after trace hrun moment hmoment
    have htrace := h files
    rw [hrun] at htrace
    rcases List.mem_append.mp hmoment with hmoment | hmoment
    · exact htrace moment hmoment
    · exact hnext a after moment hmoment

theorem tells_tryCatch {program : Ota α} {handler : OtaAgent.Exception → Ota α}
    (h : Reports holds program) (hhandler : ∀ e, Reports holds (handler e)) :
    Reports holds (Program.tryCatch program handler) := by
  intro files moment hmoment
  have htrace := h files
  cases hrun : program files with
  | mk outcome after trace =>
    rw [hrun] at htrace
    cases outcome with
    | ok a =>
      rw [Program.tryCatch_ok hrun] at hmoment
      exact htrace moment hmoment
    | error e =>
      rw [Program.tryCatch_error hrun] at hmoment
      rcases List.mem_append.mp hmoment with hmoment | hmoment
      · exact htrace moment hmoment
      · exact hhandler e after moment hmoment

theorem tells_ite {condition : Bool} {yes no : Ota α} (hyes : Reports holds yes)
    (hno : Reports holds no) : Reports holds (if condition then yes else no) := by
  cases condition
  · exact hno
  · exact hyes

theorem reported_of_event {moment : Moment}
    (h : ∀ correlationId status message published,
      moment.event ≠ .report correlationId status message published) : Reported holds moment :=
  fun _ _ _ _ hevent => absurd hevent (h _ _ _ _)

theorem statusJson_canonical {correlationId : Str} {status : OtaStatus}
    (hprintable : (statusJson correlationId status).printable = true)
    (hprogress : 0 ≤ status.progressPct ∧ status.progressPct ≤ 100) :
    (statusJson correlationId status).Canonical := by
  have hkeys : isUtf8 (lit "correlation_id") = true ∧ isUtf8 (lit "error_msg") = true ∧
      isUtf8 (lit "fw_version") = true ∧ isUtf8 (lit "progress_pct") = true ∧
      isUtf8 (lit "state") = true := by decide
  have hstate : isUtf8 (OtaAgent.stateToStr status.state) = true := by
    cases status.state <;> decide
  have hsorted : [lit "correlation_id", lit "error_msg", lit "fw_version", lit "progress_pct",
      lit "state"].Pairwise (· < ·) := by decide
  rw [OtaFlow.statusJson_printable] at hprintable
  simp only [Bool.and_eq_true] at hprintable
  refine ⟨?_, ?_⟩
  · exact List.pairwise_map.mp hsorted
  · refine ⟨hkeys.1, hprintable.1, hkeys.2.1, hprintable.2.1, hkeys.2.2.1, hprintable.2.2,
      hkeys.2.2.2.1, ⟨?_, ?_⟩, hkeys.2.2.2.2, hstate, trivial⟩ <;> omega

theorem tells_note {event : OtaAgent.Event}
    (h : ∀ correlationId status message published,
      event ≠ .report correlationId status message published) :
    Reports holds (OtaAgent.note event) := by
  intro files moment hmoment
  rw [OtaAgent.note, Program.emit_apply] at hmoment
  rw [List.mem_singleton.mp hmoment]
  exact reported_of_event h

theorem tells_setFirmware (bytes : Bytes) : Reports holds (OtaAgent.setFirmware bytes) := by
  rintro files moment ⟨⟩

private theorem tells_writeFirmware (written : Bytes) (chunks : List Bytes) :
    Reports holds (OtaAgent.writeFirmware written chunks) := by
  induction chunks generalizing written with
  | nil => exact tells_pure _
  | cons chunk rest ih =>
    refine tells_bind (tells_setFirmware _) fun _ => ?_
    exact tells_bind (tells_note (by simp)) fun _ => ih _

theorem tells_downloadFirmware (o : Outcomes) (url : Str) :
    Reports holds (OtaAgent.downloadFirmware o url) := by
  unfold OtaAgent.downloadFirmware
  refine tells_ite (tells_pure _) ?_
  refine tells_ite (tells_pure _) ?_
  refine tells_bind (tells_setFirmware _) fun _ => ?_
  refine tells_bind (tells_note (by simp)) fun _ => ?_
  refine tells_bind (tells_writeFirmware _ _) fun _ => ?_
  refine tells_ite (tells_pure _) ?_
  split
  · exact tells_pure _
  · exact tells_pure _

theorem tells_copyFile (outcome : FileCopy.Outcome) (source destination : OtaAgent.Path) :
    Reports holds (OtaAgent.copyFile outcome source destination) := by
  intro files moment hmoment
  apply reported_of_event
  unfold OtaAgent.copyFile at hmoment
  cases hsource : files source with
  | none =>
    simp only [hsource, List.mem_singleton] at hmoment
    simp [hmoment]
  | some bytes =>
    simp only [hsource, List.mem_cons, List.mem_map] at hmoment
    rcases hmoment with rfl | ⟨content, _, rfl⟩ <;> simp

theorem tells_backupCurrent (o : Outcomes) : Reports holds (OtaAgent.backupCurrent o) :=
  tells_tryCatch (tells_bind (tells_copyFile _ _ _) fun _ => tells_pure _) fun _ => tells_pure _

private theorem tells_rollback (o : Outcomes) : Reports holds (OtaAgent.rollback o) :=
  tells_tryCatch (tells_bind (tells_copyFile _ _ _) fun _ => tells_pure _) fun _ => tells_pure _

theorem tells_flashFirmware (o : Outcomes) : Reports holds (OtaAgent.flashFirmware o) :=
  tells_tryCatch (tells_bind (tells_copyFile _ _ _) fun _ => tells_pure _) fun _ =>
    tells_bind (tells_rollback o) fun _ => tells_pure _

theorem tells_removeFirmware (o : Outcomes) : Reports holds (OtaAgent.removeFirmware o) := by
  intro files moment hmoment
  apply reported_of_event
  rw [OtaFlow.removeFirmware_run] at hmoment
  split at hmoment
  · rw [List.mem_singleton.mp hmoment]
    simp
  · cases hmoment

theorem tells_checkPreconditions (o : Outcomes) :
    Reports holds (OtaAgent.checkPreconditions o) := by
  unfold OtaAgent.checkPreconditions
  split
  · rintro files moment ⟨⟩
  · exact tells_pure _

section
variable {env : OtaAgent.Env} {o : Outcomes}

private theorem tells_verifySha256 (expectedHash : Str) :
    Reports holds (OtaAgent.verifySha256 env o expectedHash) := by
  intro files moment hmoment
  rw [OtaFlow.verifySha256_run] at hmoment
  apply reported_of_event
  rw [List.mem_singleton.mp hmoment]
  simp

variable (hreport : ∀ correlationId (status : OtaStatus) text,
  0 ≤ status.progressPct ∧ status.progressPct ≤ 100 →
  env.json.dump (statusJson correlationId status) = .ok text →
  holds correlationId status ⟨OtaAgent.statusTopic env.uin, text⟩ (o.published status.state))
include hreport

theorem tells_reportStatus (correlationId : Str) {status : OtaStatus}
    (hprogress : 0 ≤ status.progressPct ∧ status.progressPct ≤ 100) :
    Reports holds (reportStatus env o correlationId status) := by
  unfold reportStatus
  split
  · next text hdump =>
    rintro files moment hmoment id reported message published hevent
    rw [OtaAgent.note, Program.emit_apply] at hmoment
    rw [List.mem_singleton.mp hmoment] at hevent
    cases hevent
    exact hreport _ _ _ hprogress hdump
  · rintro files moment ⟨⟩

private theorem tells_installFirmware (correlationId : Str) (manifest : Manifest) :
    Reports holds (OtaAgent.installFirmware env o correlationId manifest) := by
  refine tells_bind (tells_reportStatus hreport _ (by simp)) fun _ => ?_
  refine tells_bind (tells_verifySha256 _) fun _ => ?_
  apply tells_ite
  · exact tells_bind (tells_reportStatus hreport _ (by simp)) fun _ => tells_removeFirmware o
  · refine tells_bind (tells_backupCurrent o) fun _ => ?_
    refine tells_ite (tells_reportStatus hreport _ (by simp)) ?_
    refine tells_bind (tells_reportStatus hreport _ (by simp)) fun _ => ?_
    refine tells_bind (tells_flashFirmware o) fun _ => ?_
    exact tells_ite (tells_reportStatus hreport _ (by simp))
      (tells_reportStatus hreport _ (by simp))

private theorem tells_applyManifest (correlationId : Str) (manifest : Manifest) :
    Reports holds (OtaAgent.applyManifest env o correlationId manifest) := by
  refine tells_bind (tells_reportStatus hreport _ (by simp)) fun _ => ?_
  refine tells_bind (tells_checkPreconditions o) fun _ => ?_
  refine tells_ite (tells_reportStatus hreport _ (by simp)) ?_
  refine tells_bind (tells_reportStatus hreport _ (by simp)) fun _ => ?_
  refine tells_bind (tells_downloadFirmware o _) fun _ => ?_
  exact tells_ite (tells_reportStatus hreport _ (by simp)) (tells_installFirmware hreport _ _)

/-- What holds of every text that `report_status` can be asked for holds of every report of
a command. -/
theorem tells_processCommand (cmd : Command) :
    Reports holds (OtaAgent.processCommand env o cmd) := by
  unfold OtaAgent.processCommand
  split
  · exact tells_reportStatus hreport _ (by simp)
  · exact tells_applyManifest hreport _ _

end

end

theorem published_processCommand (env : OtaAgent.Env) (o : Outcomes) (cmd : Command) :
    Reports (fun _ status _ published => published = o.published status.state)
      (OtaAgent.processCommand env o cmd) :=
  tells_processCommand (fun _ _ _ _ _ => rfl) cmd

theorem reads_processCommand {floats : FloatText} {sha : FirmwareHash.Sha256} {uin : Str}
    (o : Outcomes) (cmd : Command) (files : OtaAgent.Files) :
    ∀ moment ∈ (OtaAgent.processCommand ⟨floats.json, sha, uin⟩ o cmd files).trace,
      Readable floats moment := by
  have htells := @tells_processCommand
    (fun id status message _ => floats.json.parse message.payload = .ok (statusJson id status))
    ⟨floats.json, sha, uin⟩ o
  refine htells (fun id status text hprogress hdump => ?_) cmd files
  rw [JsonText.dump] at hdump
  split at hdump
  · next hprintable =>
    cases hdump
    exact (dump_canonical floats (statusJson_canonical hprintable hprogress)).2
  · cases hdump

/-- What the worker needs of a command: whatever the world does, no status of it is
refused by the serializer, and every report is readable. -/
def Safe (floats : FloatText) (env : OtaAgent.Env) (cmd : Command) : Prop :=
  ∀ o files,
    (OtaAgent.processCommand env o cmd files).outcome ≠ .error .jsonTypeError ∧
      ∀ moment ∈ (OtaAgent.processCommand env o cmd files).trace, Readable floats moment

section
variable (floats : FloatText) (sha : FirmwareHash.Sha256) (uin : Str)

private theorem reportable_of_read {payload : Str} {cmd : Command}
    (h : readCommand ⟨floats.json, uin⟩ payload = .ok cmd) :
    OtaFlow.reportable ⟨floats.json, sha, uin⟩ cmd = true := by
  obtain ⟨_, inner, _, _, hparse, hinner, hid⟩ := readCommand_payload floats h
  unfold OtaFlow.reportable
  rw [parseManifest_of_parse hparse]
  split
  · exact hid
  · next manifest hmanifest =>
    simp only [manifestOf, bind_eq_ok] at hmanifest
    obtain ⟨_, _, _, _, _, _, _, _, version, hversion, heq⟩ := hmanifest
    cases heq
    rw [hid, valueString_utf8 hinner (by decide) hversion]
    rfl

private theorem safe_of_read {payload : Str} {cmd : Command}
    (h : readCommand ⟨floats.json, uin⟩ payload = .ok cmd) :
    Safe floats ⟨floats.json, sha, uin⟩ cmd := by
  have hreportable := reportable_of_read floats sha uin h
  refine fun o files => ⟨fun hthrew => ?_, reads_processCommand o cmd files⟩
  have hflow := OtaFlow.processCommand_flow ⟨floats.json, sha, uin⟩ o cmd files
  generalize OtaAgent.processCommand _ o cmd files = execution at hflow hthrew
  cases hflow with
  | unprintable hbad =>
    rw [hreportable] at hbad
    cases hbad
  | _ => cases hthrew

private theorem safe_of_pushed {seen : SeenIds} {message : Message} :
    ∀ cmd ∈ OtaShutdown.pushed (handle ⟨floats.json, uin⟩ seen message).1,
      Safe floats ⟨floats.json, sha, uin⟩ cmd := by
  have hhandles := handle_handles ⟨floats.json, uin⟩ seen message
  generalize handle _ seen message = result at hhandles
  intro cmd hcmd
  cases hhandles with
  | accepted _ other hread _ =>
    have hsafe := safe_of_read floats sha uin hread
    unfold route at hcmd
    split at hcmd
    · rwa [List.mem_singleton.mp hcmd]
    all_goals cases hcmd
  | _ => cases hcmd

def Held (s : OtaShutdown.State) : List Command := s.worker.current ++ s.otaQueue

private theorem held_step {s s' : OtaShutdown.State} {action : OtaShutdown.Action}
    (h : OtaShutdown.Steps ⟨floats.json, sha, uin⟩ s action s')
    (hs : ∀ cmd ∈ Held s, Safe floats ⟨floats.json, sha, uin⟩ cmd) :
    ∀ cmd ∈ Held s', Safe floats ⟨floats.json, sha, uin⟩ cmd := by
  cases h with
  | arrived | leftLoop | consumed => exact hs
  | performed step rest hmain after hperform =>
    obtain ⟨_, hqueue, hworker, _⟩ := OtaShutdown.perform_frame hperform
    simpa only [Held, hqueue, hworker] using hs
  | handled message hconsumer =>
    intro cmd hcmd
    rw [Held, ← List.append_assoc] at hcmd
    rcases List.mem_append.mp hcmd with hcmd | hcmd
    · exact hs cmd hcmd
    · exact safe_of_pushed floats sha uin cmd hcmd
  | checked o hworker =>
    intro cmd hcmd
    apply hs cmd
    have hcurrent :
        OtaShutdown.Worker.current (if s.otaRunning then .popping else .ended) = [] := by
      cases s.otaRunning <;> rfl
    rw [Held, hcurrent, List.nil_append] at hcmd
    exact List.mem_append_right _ hcmd
  | timedOut o hworker =>
    intro cmd hcmd
    exact hs cmd (List.mem_append_right _ hcmd)
  | popped o hworker cmd rest hqueue =>
    simpa [Held, hworker, hqueue, OtaShutdown.Worker.current] using hs
  | processed o cmd hworker hok =>
    intro other hother
    exact hs other (List.mem_append_right _ hother)
  | threw o cmd hworker =>
    simpa only [Held, hworker, OtaShutdown.Worker.current] using hs

/-- Whatever the broker delivers and however the threads interleave, no command makes the
serializer throw on a status, and every report is parsed to the status it reports. -/
theorem worker_survives_payloads (files : Files) (actions : List OtaShutdown.Action) :
    let env : OtaAgent.Env := ⟨floats.json, sha, uin⟩
    let gateway := OtaShutdown.machine env files
    gateway.Along (fun s action => ∀ o cmd, action = .worker o → s.worker = .busy cmd →
        (OtaAgent.process env s.files cmd o).execution.outcome ≠ .error .jsonTypeError ∧
        ∀ moment ∈ (OtaAgent.process env s.files cmd o).moments, Readable floats moment)
      gateway.init actions := by
  intro env gateway
  apply Machine.along_of_invariant (I := fun s => ∀ cmd ∈ Held s, Safe floats env cmd)
  · exact fun s action s' hstep => held_step floats sha uin (OtaShutdown.step_steps hstep)
  · intro s action hs o cmd _ hworker
    have hheld : cmd ∈ Held s := by
      rw [Held, hworker]
      exact List.mem_append_left _ (List.mem_singleton.mpr rfl)
    exact hs cmd hheld o s.files
  · rintro cmd ⟨⟩

/-- The manifest that the worker reads is the one in the payload of the command, although
that payload was dumped and parsed again on the way. -/
theorem worker_reads_payload {payload : Str} {cmd : Command}
    (h : readCommand ⟨floats.json, uin⟩ payload = .ok cmd) :
    ∃ document inner, floats.json.parse payload = .ok document ∧
      document.valueJson (lit "payload") (.object []) = .ok inner ∧
      parseManifest ⟨floats.json, sha, uin⟩ cmd.payloadJson = manifestOf inner := by
  obtain ⟨document, inner, hparse, hinner, hreparse, _⟩ := readCommand_payload floats h
  exact ⟨document, inner, hparse, hinner, parseManifest_of_parse hreparse⟩

end

inductive Order where
  | actuation (cmdType : Str) (known : cmdType ∈ actuationTypes) (correlationId : PyStr)
  | ota (correlationId url sha256 version : PyStr)

namespace Order

def document : Order → Json
  | .actuation cmdType _ correlationId => buildActuationCommand cmdType correlationId.utf8
  | .ota correlationId url sha256 version =>
    buildOtaCommand correlationId.utf8 url.utf8 sha256.utf8 version.utf8

def command (floats : FloatText) : Order → Command
  | .actuation cmdType _ correlationId =>
    ⟨(typeMap.lookup cmdType).getD .unknown, correlationId.utf8, [0x7B, 0x7D]⟩
  | .ota correlationId url sha256 version =>
    ⟨.otaTrigger, correlationId.utf8,
      floats.json.compact (orderedManifest url.utf8 sha256.utf8 version.utf8)⟩

def message (floats : FloatText) (uin : Str) (order : Order) : Message :=
  ⟨commandTopic uin, Dumps.dumps floats order.document⟩

end Order

section
variable (floats : FloatText) (uin : Str)

private theorem order_stored (order : Order) : order.document.Stored fun _ _ => True := by
  have hkeys : isUtf8 (lit "type") = true ∧ isUtf8 (lit "correlation_id") = true ∧
      isUtf8 (lit "payload") = true ∧ isUtf8 (lit "url") = true ∧ isUtf8 (lit "sha256") = true ∧
      isUtf8 (lit "version") = true ∧ isUtf8 (lit "OTA_TRIGGER") = true := by decide
  cases order with
  | actuation cmdType known correlationId =>
    have htypes : ∀ name ∈ actuationTypes, isUtf8 name = true := by decide
    have htype : isUtf8 cmdType = true := htypes cmdType known
    simp [Order.document, buildActuationCommand, Json.Stored, Json.StoredMembers, hkeys, htype,
      correlationId.valid]
  | ota correlationId url sha256 version =>
    simp [Order.document, buildOtaCommand, Json.Stored, Json.StoredMembers, hkeys,
      correlationId.valid, url.valid, sha256.valid, version.valid]

theorem parseCommand_order (order : Order) (out : Command) :
    parseCommand ⟨floats.json, uin⟩ (Dumps.dumps floats order.document) out =
      (true, order.command floats) := by
  have hparse := Dumps.parse_dumps floats (order_stored order)
  cases order with
  | actuation cmdType known correlationId =>
    rw [Order.document, byKey_buildActuationCommand] at hparse
    exact Downlink.parseCommand_document ⟨floats.json, uin⟩ hparse rfl out
  | ota correlationId url sha256 version =>
    rw [Order.document, byKey_buildOtaCommand] at hparse
    have htrigger : typeMap.lookup (lit "OTA_TRIGGER") = some .otaTrigger := by decide
    have hparsed := Downlink.parseCommand_document ⟨floats.json, uin⟩ hparse
      (Downlink.printable_orderedManifest url sha256 version) out
    rwa [htrigger, Option.getD_some] at hparsed

theorem commandTopic_ne : commandTopic uin ≠ diagnosisTopic uin := by
  intro h
  have hprefix := congrArg (List.take 5) h
  rw [commandTopic, diagnosisTopic, List.append_assoc, List.take_append_of_le_length (by decide),
    List.take_append_of_le_length (by decide)] at hprefix
  revert hprefix
  decide

private theorem handle_order (seen : SeenIds) (order : Order) :
    (handle ⟨floats.json, uin⟩ seen (order.message floats uin)).1 =
      if (order.command floats).correlationId ∈ seen.keys then .duplicate (order.command floats)
      else .accepted (order.command floats) (route (order.command floats)) := by
  have htopic : (order.message floats uin).topic ≠ diagnosisTopic uin := commandTopic_ne uin
  rw [handle, if_neg htopic]
  simp only [Order.message, parseCommand_order, alreadySeen]
  by_cases hseen : (order.command floats).correlationId ∈ seen.keys
  · rw [CappedSet.remember_of_mem hseen, if_pos hseen]
  · have hnew : seen.remember (order.command floats).correlationId =
        (false, (seen.remember (order.command floats).correlationId).2) :=
      Prod.ext (CappedSet.remember_of_notMem hseen) rfl
    rw [hnew, if_neg hseen]

private theorem manifest_canonical (url sha256 version : PyStr) :
    (orderedManifest url.utf8 sha256.utf8 version.utf8).Canonical := by
  have hkeys : isUtf8 (lit "sha256") = true ∧ isUtf8 (lit "url") = true ∧
      isUtf8 (lit "version") = true := by decide
  have hsorted : [lit "sha256", lit "url", lit "version"].Pairwise (· < ·) := by decide
  exact ⟨List.pairwise_map.mp hsorted, hkeys.1, sha256.valid, hkeys.2.1, url.valid, hkeys.2.2,
    version.valid, trivial⟩

/-- Every order arrives as the command it stands for. A list of orders on the command
topic is consumed one by one, and the worker recovers each manifest. -/
theorem orders_arrive (sha : FirmwareHash.Sha256) (seen : SeenIds) (orders : List Order) :
    List.Forall₂ (fun order record =>
        record.handled = .duplicate (order.command floats) ∨
          record.handled = .accepted (order.command floats) (route (order.command floats)))
      orders
      (CommandHandler.run ⟨floats.json, uin⟩ seen
        (orders.map fun order => .consumed (order.message floats uin))) ∧
    ∀ correlationId url sha256 version : PyStr,
      parseManifest ⟨floats.json, sha, uin⟩
          ((Order.ota correlationId url sha256 version).command floats).payloadJson =
        .ok ⟨url.utf8, sha256.utf8, version.utf8⟩ := by
  refine ⟨?_, fun correlationId url sha256 version => ?_⟩
  · induction orders generalizing seen with
    | nil => exact .nil
    | cons order rest ih =>
      refine .cons ?_ (ih _)
      rw [handle_order]
      split
      · exact Or.inl rfl
      · exact Or.inr rfl
  · apply Downlink.parseManifest_ordered
    exact (dump_canonical floats (manifest_canonical url sha256 version)).2

end

def sampleOrder : Order := .ota Downlink.sampleStr Downlink.sampleStr Downlink.sampleStr
  Downlink.sampleStr

theorem worker_reads_payload_sample :
    ∃ document inner, bitText.json.parse (Dumps.dumps bitText sampleOrder.document) = .ok document ∧
      document.valueJson (lit "payload") (.object []) = .ok inner ∧
      parseManifest ⟨bitText.json, Downlink.sampleEnv.sha, lit "V1"⟩
        (sampleOrder.command bitText).payloadJson = manifestOf inner := by
  apply worker_reads_payload bitText Downlink.sampleEnv.sha (lit "V1")
  have hparsed := parseCommand_order bitText (lit "V1") sampleOrder emptyCommand
  rw [parseCommand] at hparsed
  split at hparsed
  · next cmd hread =>
    cases hparsed
    exact hread
  · cases hparsed

end SdvGateway.Gateway.PayloadTexts

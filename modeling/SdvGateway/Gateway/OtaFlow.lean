import SdvGateway.Gateway.OtaAgent

/-! What one command can do. Each function of the worker has one lemma that
says how it ends and which files it changes; `processCommand_flow` lists the
ways through the whole flow, and the results about runs are read off that list. -/
namespace SdvGateway.Gateway.OtaFlow
open Common FirmwareHash Library OtaAgent

def Printable (correlationId version : Str) : Prop :=
  isUtf8 correlationId = true ∧ isUtf8 version = true

theorem statusJson_printable (correlationId : Str) (status : OtaStatus) :
    (statusJson correlationId status).printable =
      (isUtf8 correlationId && (isUtf8 status.errorMsg && isUtf8 status.fwVersion)) := by
  have hkeys : isUtf8 (lit "correlation_id") = true ∧ isUtf8 (lit "error_msg") = true ∧
      isUtf8 (lit "fw_version") = true ∧ isUtf8 (lit "progress_pct") = true ∧
      isUtf8 (lit "state") = true := by decide
  have hstate : isUtf8 (stateToStr status.state) = true := by
    cases status.state <;> decide
  simp [statusJson, Json.printable, Json.printableMembers, hkeys, hstate]

def reportMoment (env : Env) (o : Outcomes) (correlationId : Str) (status : OtaStatus)
    (files : Files) : Moment :=
  ⟨.report correlationId status
    ⟨statusTopic env.uin, env.json.compact (statusJson correlationId status)⟩
    (o.published status.state), files⟩

theorem reportStatus_ok (env : Env) (o : Outcomes) {correlationId : Str} {status : OtaStatus}
    (hid : isUtf8 correlationId = true) (hversion : isUtf8 status.fwVersion = true)
    (herror : isUtf8 status.errorMsg = true) (files : Files) :
    reportStatus env o correlationId status files =
      ⟨.ok (), files, [reportMoment env o correlationId status files]⟩ := by
  have h : (statusJson correlationId status).printable = true := by
    simp [statusJson_printable, hid, hversion, herror]
  simp [reportStatus, JsonText.dump, h, note, Program.emit, reportMoment]

theorem reportStatus_error (env : Env) (o : Outcomes) {correlationId : Str} {status : OtaStatus}
    (h : (statusJson correlationId status).printable = false) (files : Files) :
    reportStatus env o correlationId status files = ⟨.error .jsonTypeError, files, []⟩ := by
  simp [reportStatus, JsonText.dump, h, Program.throw]

def writeMoments (files : Files) : Bytes → List Bytes → List Moment
  | _, [] => []
  | written, chunk :: rest =>
    ⟨.downloadWrote chunk, Function.update files .firmware (some (written ++ chunk))⟩ ::
      writeMoments files (written ++ chunk) rest

theorem writeFirmware_run (files : Files) (written : Bytes) (chunks : List Bytes) :
    writeFirmware written chunks (Function.update files .firmware (some written)) =
      ⟨.ok (), Function.update files .firmware (some (written ++ chunks.flatten)),
        writeMoments files written chunks⟩ := by
  induction chunks generalizing written with
  | nil => simp [writeFirmware, writeMoments, Program.pure_apply]
  | cons chunk rest ih =>
    rw [writeFirmware, setFirmware, Program.bind_ok (Program.modify_apply _ _),
      Function.update_idem, note, Program.bind_ok (Program.emit_apply _ _), ih (written ++ chunk)]
    simp [Execution.after, writeMoments, List.append_assoc]

def downloadMoments (files : Files) (chunks : List Bytes) : List Moment :=
  ⟨.downloadOpened, Function.update files .firmware (some [])⟩ :: writeMoments files [] chunks

def downloadSucceeds (o : Outcomes) : Bool :=
  o.curlInit && (o.fopen && (o.performOk && o.httpCode == 200))

theorem downloadFirmware_unopened (o : Outcomes) (url : Str) (files : Files)
    (h : (o.curlInit && o.fopen) = false) :
    downloadFirmware o url files = ⟨.ok false, files, []⟩ := by
  unfold downloadFirmware
  cases hinit : o.curlInit
  · rfl
  · have hopen : o.fopen = false := by simpa [hinit] using h
    simp [hopen, Program.pure_apply]

theorem downloadFirmware_opened (o : Outcomes) (url : Str) (files : Files)
    (hinit : o.curlInit = true) (hopen : o.fopen = true) :
    downloadFirmware o url files =
      ⟨.ok (downloadSucceeds o),
        Function.update files .firmware (some o.received.flatten),
        downloadMoments files o.received⟩ := by
  unfold downloadFirmware
  simp only [hinit, hopen, Bool.not_true, Bool.false_eq_true, if_false]
  rw [setFirmware, Program.bind_ok (Program.modify_apply _ _), note,
    Program.bind_ok (Program.emit_apply _ _),
    Program.bind_ok (writeFirmware_run files [] o.received)]
  cases hperform : o.performOk
  · simp [downloadSucceeds, hperform, Program.pure_apply, downloadMoments, Execution.after]
  · by_cases hcode : o.httpCode = 200 <;>
      simp [downloadSucceeds, hinit, hopen, hperform, hcode, Program.pure_apply,
        downloadMoments, Execution.after]

def accepts (env : Env) (o : Outcomes) (expectedHash : Str) (files : Files) : Bool :=
  match files .firmware with
  | some bytes => o.verifyOpens && hex (env.sha.digest bytes) == expectedHash
  | none => false

theorem verifySha256_run (env : Env) (o : Outcomes) (expectedHash : Str) (files : Files) :
    verifySha256 env o expectedHash files =
      ⟨.ok (accepts env o expectedHash files), files,
        [⟨.verified (accepts env o expectedHash files), files⟩]⟩ := by
  unfold verifySha256 accepts
  cases files .firmware <;> simp

theorem accepts_image {env : Env} {o : Outcomes} {expectedHash : Str} {files : Files}
    (h : accepts env o expectedHash files = true) :
    ∃ image, files .firmware = some image ∧ hex (env.sha.digest image) = expectedHash := by
  unfold accepts at h
  cases hfile : files .firmware with
  | none => simp [hfile] at h
  | some image =>
    simp only [hfile, Bool.and_eq_true, beq_iff_eq] at h
    exact ⟨image, rfl, h.2⟩

def copied (outcome : FileCopy.Outcome) (source destination : Path) (files : Files) : Files :=
  match files source with
  | none => files
  | some bytes => Function.update files destination (outcome.result bytes (files destination))

def copyMoments (outcome : FileCopy.Outcome) (source destination : Path) (files : Files) :
    List Moment :=
  ⟨.copyBegins source destination, files⟩ ::
    match files source with
    | none => []
    | some bytes => (outcome.contents bytes).map fun content =>
        ⟨.copying source destination, Function.update files destination (some content)⟩

def copySucceeds (outcome : FileCopy.Outcome) (source : Path) (files : Files) : Bool :=
  (files source).isSome && outcome.succeeded

theorem copyFile_run (outcome : FileCopy.Outcome) (source destination : Path) (files : Files) :
    copyFile outcome source destination files =
      ⟨if copySucceeds outcome source files then .ok () else .error .filesystemError,
        copied outcome source destination files,
        copyMoments outcome source destination files⟩ := by
  unfold copyFile copied copyMoments copySucceeds
  cases files source <;> simp

theorem tryCopy_run (outcome : FileCopy.Outcome) (source destination : Path) (files : Files) :
    Program.tryCatch
        (do copyFile outcome source destination; pure true : Ota Bool)
        (fun _ => pure false) files =
      ⟨.ok (copySucceeds outcome source files), copied outcome source destination files,
        copyMoments outcome source destination files⟩ := by
  have hcopy := copyFile_run outcome source destination files
  cases h : copySucceeds outcome source files with
  | true =>
    simp only [h, if_true] at hcopy
    rw [Program.tryCatch_ok (Program.bind_ok hcopy _)]
    simp [Program.pure_apply]
  | false =>
    simp only [h, Bool.false_eq_true, if_false] at hcopy
    rw [Program.tryCatch_error (Program.bind_error hcopy _), Program.pure_apply]
    simp [Execution.after]

theorem backupCurrent_run (o : Outcomes) (files : Files) :
    backupCurrent o files =
      ⟨.ok (copySucceeds o.backup .installed files), copied o.backup .installed .backup files,
        copyMoments o.backup .installed .backup files⟩ :=
  tryCopy_run _ _ _ _

private theorem rollback_run (o : Outcomes) (files : Files) :
    rollback o files =
      ⟨.ok (copySucceeds o.rollback .backup files), copied o.rollback .backup .installed files,
        copyMoments o.rollback .backup .installed files⟩ :=
  tryCopy_run _ _ _ _

theorem flashFirmware_ok (o : Outcomes) (files : Files)
    (h : copySucceeds o.flash .firmware files = true) :
    flashFirmware o files =
      ⟨.ok true, copied o.flash .firmware .installed files,
        copyMoments o.flash .firmware .installed files⟩ := by
  have hcopy := copyFile_run o.flash .firmware .installed files
  simp only [h, if_true] at hcopy
  unfold flashFirmware
  rw [Program.tryCatch_ok (Program.bind_ok hcopy _)]
  simp [Program.pure_apply]

theorem flashFirmware_failed (o : Outcomes) (files : Files)
    (h : copySucceeds o.flash .firmware files = false) :
    flashFirmware o files =
      let broken := copied o.flash .firmware .installed files
      ⟨.ok false, copied o.rollback .backup .installed broken,
        copyMoments o.flash .firmware .installed files ++
          copyMoments o.rollback .backup .installed broken⟩ := by
  have hcopy := copyFile_run o.flash .firmware .installed files
  simp only [h, Bool.false_eq_true, if_false] at hcopy
  unfold flashFirmware
  rw [Program.tryCatch_error (Program.bind_error hcopy _), Program.bind_ok (rollback_run o _),
    Program.pure_apply]
  simp [Execution.after]

theorem removeFirmware_run (o : Outcomes) (files : Files) :
    removeFirmware o files =
      if o.removeOk then
        ⟨.ok (), Function.update files .firmware none,
          [⟨.removed, Function.update files .firmware none⟩]⟩
      else ⟨.error .filesystemError, files, []⟩ := rfl

theorem checkPreconditions_run (o : Outcomes) {available : Nat} (h : o.space = some available)
    (files : Files) :
    checkPreconditions o files = ⟨.ok (decide (minFreeBytes ≤ available)), files, []⟩ := by
  simp [checkPreconditions, h, Program.pure_apply]

def reportable (env : Env) (cmd : Command) : Bool :=
  match parseManifest env cmd.payloadJson with
  | .error _ => isUtf8 cmd.correlationId
  | .ok manifest => isUtf8 cmd.correlationId && isUtf8 manifest.version

def downloaded (o : Outcomes) (files : Files) : Files :=
  Function.update files .firmware (some o.received.flatten)

def backedUp (o : Outcomes) (files : Files) : Files :=
  copied o.backup .installed .backup (downloaded o files)

def flashed (o : Outcomes) (files : Files) : Files :=
  copied o.flash .firmware .installed (backedUp o files)

def rolledBack (o : Outcomes) (files : Files) : Files :=
  copied o.rollback .backup .installed (flashed o files)

theorem downloadFirmware_cases {o : Outcomes} {url : Str} {files partly : Files} {ok : Bool}
    {moments : List Moment} (h : downloadFirmware o url files = ⟨.ok ok, partly, moments⟩) :
    (partly = downloaded o files ∧ moments = downloadMoments files o.received) ∨
      (partly = files ∧ moments = []) := by
  by_cases hopened : o.curlInit = true ∧ o.fopen = true
  · rw [downloadFirmware_opened o url files hopened.1 hopened.2] at h
    cases h
    exact .inl ⟨rfl, rfl⟩
  · rw [downloadFirmware_unopened o url files (by simpa using hopened)] at h
    cases h
    exact .inr ⟨rfl, rfl⟩

def checkedMoments (env : Env) (o : Outcomes) (correlationId : Str) (manifest : Manifest)
    (accepted : Bool) (files : Files) : List Moment :=
  let report := reportMoment env o correlationId
  [report ⟨.manifestReceived, manifest.version, [], 0⟩ files,
    report ⟨.downloading, manifest.version, [], 10⟩ files] ++
    downloadMoments files o.received ++
    [report ⟨.verifying, manifest.version, [], 50⟩ (downloaded o files),
      ⟨.verified accepted, downloaded o files⟩]

def installingMoments (env : Env) (o : Outcomes) (correlationId : Str) (manifest : Manifest)
    (files : Files) : List Moment :=
  checkedMoments env o correlationId manifest true files ++
    copyMoments o.backup .installed .backup (downloaded o files) ++
    [reportMoment env o correlationId ⟨.installing, manifest.version, [], 75⟩
      (backedUp o files)] ++
    copyMoments o.flash .firmware .installed (backedUp o files)

/-- The download was complete, and `accepted` is what the hash check says of it. -/
structure Checked (env : Env) (o : Outcomes) (cmd : Command) (manifest : Manifest)
    (files : Files) (accepted : Bool) : Prop where
  manifest_eq : parseManifest env cmd.payloadJson = .ok manifest
  printable : Printable cmd.correlationId manifest.version
  space : ∃ available, o.space = some available ∧ minFreeBytes ≤ available
  download : downloadSucceeds o = true
  accepts_eq : accepts env o manifest.sha256 (downloaded o files) = accepted

inductive Flow (env : Env) (o : Outcomes) (cmd : Command) (files : Files) :
    Execution Exception Files Moment Unit → Prop
  | unprintable (h : reportable env cmd = false) :
      Flow env o cmd files ⟨.error .jsonTypeError, files, []⟩
  | badManifest (e : JsonError) (hmanifest : parseManifest env cmd.payloadJson = .error e)
      (hprintable : isUtf8 cmd.correlationId = true) :
      Flow env o cmd files ⟨.ok (), files,
        [reportMoment env o cmd.correlationId
          ⟨.failed, [], lit "Invalid manifest JSON", 0⟩ files]⟩
  | spaceThrew (manifest : Manifest)
      (hmanifest : parseManifest env cmd.payloadJson = .ok manifest)
      (hprintable : Printable cmd.correlationId manifest.version) (hspace : o.space = none) :
      Flow env o cmd files ⟨.error .filesystemError, files,
        [reportMoment env o cmd.correlationId
          ⟨.manifestReceived, manifest.version, [], 0⟩ files]⟩
  | deferred (manifest : Manifest)
      (hmanifest : parseManifest env cmd.payloadJson = .ok manifest)
      (hprintable : Printable cmd.correlationId manifest.version) (available : Nat)
      (hspace : o.space = some available) (hlow : available < minFreeBytes) :
      Flow env o cmd files ⟨.ok (), files,
        [reportMoment env o cmd.correlationId
            ⟨.manifestReceived, manifest.version, [], 0⟩ files,
          reportMoment env o cmd.correlationId
            ⟨.failed, manifest.version, lit "Preconditions not met", 0⟩ files]⟩
  | notDownloaded (manifest : Manifest)
      (hmanifest : parseManifest env cmd.payloadJson = .ok manifest)
      (hprintable : Printable cmd.correlationId manifest.version) (available : Nat)
      (hspace : o.space = some available) (partly : Files) (moments : List Moment)
      (hfail : downloadSucceeds o = false)
      (hdownload : downloadFirmware o manifest.url files = ⟨.ok false, partly, moments⟩) :
      Flow env o cmd files ⟨.ok (), partly,
        [reportMoment env o cmd.correlationId
            ⟨.manifestReceived, manifest.version, [], 0⟩ files,
          reportMoment env o cmd.correlationId
            ⟨.downloading, manifest.version, [], 10⟩ files] ++ moments ++
        [reportMoment env o cmd.correlationId
          ⟨.failed, manifest.version, lit "Download failed", 0⟩ partly]⟩
  | rejected (manifest : Manifest) (hchecked : Checked env o cmd manifest files false)
      (hremove : o.removeOk = true) :
      Flow env o cmd files ⟨.ok (), Function.update (downloaded o files) .firmware none,
        checkedMoments env o cmd.correlationId manifest false files ++
        [reportMoment env o cmd.correlationId
            ⟨.failed, manifest.version, lit "SHA256 mismatch — firmware rejected", 0⟩
            (downloaded o files),
          ⟨.removed, Function.update (downloaded o files) .firmware none⟩]⟩
  | removeThrew (manifest : Manifest) (hchecked : Checked env o cmd manifest files false)
      (hremove : o.removeOk = false) :
      Flow env o cmd files ⟨.error .filesystemError, downloaded o files,
        checkedMoments env o cmd.correlationId manifest false files ++
        [reportMoment env o cmd.correlationId
            ⟨.failed, manifest.version, lit "SHA256 mismatch — firmware rejected", 0⟩
            (downloaded o files)]⟩
  | notBackedUp (manifest : Manifest) (hchecked : Checked env o cmd manifest files true)
      (hbackup : copySucceeds o.backup .installed (downloaded o files) = false) :
      Flow env o cmd files ⟨.ok (), backedUp o files,
        checkedMoments env o cmd.correlationId manifest true files ++
        copyMoments o.backup .installed .backup (downloaded o files) ++
        [reportMoment env o cmd.correlationId
            ⟨.failed, manifest.version, lit "Backup failed — OTA aborted", 0⟩
            (backedUp o files)]⟩
  | flashFailed (manifest : Manifest) (hchecked : Checked env o cmd manifest files true)
      (hbackup : copySucceeds o.backup .installed (downloaded o files) = true)
      (hflash : copySucceeds o.flash .firmware (backedUp o files) = false) :
      Flow env o cmd files ⟨.ok (), rolledBack o files,
        installingMoments env o cmd.correlationId manifest files ++
        copyMoments o.rollback .backup .installed (flashed o files) ++
        [reportMoment env o cmd.correlationId
          ⟨.rolledBack, manifest.version,
            lit "Flash failed — rolled back to previous firmware", 0⟩ (rolledBack o files)]⟩
  | complete (manifest : Manifest) (hchecked : Checked env o cmd manifest files true)
      (hbackup : copySucceeds o.backup .installed (downloaded o files) = true)
      (hflash : copySucceeds o.flash .firmware (backedUp o files) = true) :
      Flow env o cmd files ⟨.ok (), flashed o files,
        installingMoments env o cmd.correlationId manifest files ++
        [reportMoment env o cmd.correlationId
          ⟨.complete, manifest.version, [], 100⟩ (flashed o files)]⟩

private theorem report_run {env : Env} (o : Outcomes) {correlationId version : Str}
    (hprintable : Printable correlationId version) (state : OtaState) {message : Str}
    (hmessage : isUtf8 message = true) (progress : Int) (files : Files) :
    reportStatus env o correlationId ⟨state, version, message, progress⟩ files =
      ⟨.ok (), files,
        [reportMoment env o correlationId ⟨state, version, message, progress⟩ files]⟩ :=
  reportStatus_ok env o hprintable.1 hprintable.2 hmessage files

private theorem installFirmware_flow (env : Env) (o : Outcomes) (cmd : Command) (files : Files)
    (manifest : Manifest) (hchecked : Checked env o cmd manifest files
      (accepts env o manifest.sha256 (downloaded o files))) :
    Flow env o cmd files
      ((installFirmware env o cmd.correlationId manifest (downloaded o files)).after
        ([reportMoment env o cmd.correlationId
            ⟨.manifestReceived, manifest.version, [], 0⟩ files,
          reportMoment env o cmd.correlationId
            ⟨.downloading, manifest.version, [], 10⟩ files] ++
          downloadMoments files o.received)) := by
  have hprintable := hchecked.printable
  have hnone : isUtf8 ([] : Str) = true := by decide
  unfold installFirmware
  rw [Program.bind_ok (report_run o hprintable _ hnone _ _),
    Program.bind_ok (verifySha256_run _ _ _ _)]
  simp only [Execution.after_after, ← List.append_assoc]
  cases haccept : accepts env o manifest.sha256 (downloaded o files) with
  | false =>
    rw [haccept] at hchecked
    simp only [Bool.not_false, if_true]
    rw [Program.bind_ok (report_run o hprintable _ (by decide) _ _), removeFirmware_run]
    cases hremove : o.removeOk with
    | true => simpa [Execution.after, checkedMoments] using Flow.rejected manifest hchecked hremove
    | false =>
      simpa [Execution.after, checkedMoments] using Flow.removeThrew manifest hchecked hremove
  | true =>
    rw [haccept] at hchecked
    simp only [Bool.not_true, Bool.false_eq_true, if_false]
    have hrun : backupCurrent o (downloaded o files) =
        ⟨.ok (copySucceeds o.backup .installed (downloaded o files)), backedUp o files,
          copyMoments o.backup .installed .backup (downloaded o files)⟩ :=
      backupCurrent_run o _
    rw [Program.bind_ok hrun]
    cases hbackup : copySucceeds o.backup .installed (downloaded o files) with
    | false =>
      simp only [Bool.not_false, if_true]
      rw [report_run o hprintable _ (by decide) _ _]
      simpa [Execution.after, checkedMoments] using Flow.notBackedUp manifest hchecked hbackup
    | true =>
      simp only [Bool.not_true, Bool.false_eq_true, if_false]
      rw [Program.bind_ok (report_run o hprintable _ hnone _ _)]
      cases hflash : copySucceeds o.flash .firmware (backedUp o files) with
      | false =>
        rw [Program.bind_ok (flashFirmware_failed o _ hflash)]
        simp only [Bool.not_false, if_true]
        rw [report_run o hprintable _ (by decide) _ _]
        simpa [Execution.after, checkedMoments, installingMoments, flashed, rolledBack] using
          Flow.flashFailed manifest hchecked hbackup hflash
      | true =>
        rw [Program.bind_ok (flashFirmware_ok o _ hflash)]
        simp only [Bool.not_true, Bool.false_eq_true, if_false]
        rw [report_run o hprintable _ hnone _ _]
        simpa [Execution.after, checkedMoments, installingMoments, flashed] using
          Flow.complete manifest hchecked hbackup hflash

private theorem applyManifest_flow (env : Env) (o : Outcomes) (cmd : Command) (files : Files)
    (manifest : Manifest) (hmanifest : parseManifest env cmd.payloadJson = .ok manifest)
    (hprintable : Printable cmd.correlationId manifest.version) :
    Flow env o cmd files (applyManifest env o cmd.correlationId manifest files) := by
  have hnone : isUtf8 ([] : Str) = true := by decide
  unfold applyManifest
  rw [Program.bind_ok (report_run o hprintable _ hnone _ _)]
  cases hspace : o.space with
  | none =>
    have hthrow : checkPreconditions o files = ⟨.error .filesystemError, files, []⟩ := by
      simp [checkPreconditions, hspace, Program.throw]
    rw [Program.bind_error hthrow]
    exact .spaceThrew manifest hmanifest hprintable hspace
  | some available =>
    rw [Program.bind_ok (checkPreconditions_run o hspace files)]
    by_cases henough : minFreeBytes ≤ available
    · simp only [henough, decide_true, Bool.not_true, Bool.false_eq_true, if_false]
      rw [Program.bind_ok (report_run o hprintable _ hnone _ _)]
      cases hdownload : downloadSucceeds o with
      | false =>
        obtain ⟨partly, moments, hrun⟩ :
            ∃ partly moments, downloadFirmware o manifest.url files =
              ⟨.ok false, partly, moments⟩ := by
          by_cases hopened : o.curlInit = true ∧ o.fopen = true
          · exact ⟨_, _, hdownload ▸
              downloadFirmware_opened o manifest.url files hopened.1 hopened.2⟩
          · exact ⟨_, _, downloadFirmware_unopened o manifest.url files (by simpa using hopened)⟩
        rw [Program.bind_ok hrun]
        simp only [Bool.not_false, if_true]
        rw [report_run o hprintable _ (by decide) _ _]
        exact .notDownloaded manifest hmanifest hprintable available hspace partly moments
          hdownload hrun
      | true =>
        have hopened : o.curlInit = true ∧ o.fopen = true := by
          simp only [downloadSucceeds, Bool.and_eq_true] at hdownload
          exact ⟨hdownload.1, hdownload.2.1⟩
        rw [Program.bind_ok (downloadFirmware_opened o manifest.url files hopened.1 hopened.2)]
        simp only [hdownload, Bool.not_true, Bool.false_eq_true, if_false, Execution.after_after]
        exact installFirmware_flow env o cmd files manifest
          ⟨hmanifest, hprintable, ⟨available, hspace, henough⟩, hdownload, rfl⟩
    · simp only [henough, decide_false, Bool.not_false, if_true]
      rw [report_run o hprintable _ (by decide) _ _]
      exact .deferred manifest hmanifest hprintable available hspace (by omega)

theorem processCommand_flow (env : Env) (o : Outcomes) (cmd : Command) (files : Files) :
    Flow env o cmd files (processCommand env o cmd files) := by
  unfold processCommand
  cases hmanifest : parseManifest env cmd.payloadJson with
  | error e =>
    by_cases hprintable : isUtf8 cmd.correlationId = true
    · dsimp only
      rw [reportStatus_ok env o hprintable (by decide) (by decide)]
      exact .badManifest e hmanifest hprintable
    · dsimp only
      rw [reportStatus_error env o (by simp [statusJson_printable, hprintable])]
      exact .unprintable (by simpa [reportable, hmanifest] using hprintable)
  | ok manifest =>
    by_cases hprintable : Printable cmd.correlationId manifest.version
    · exact applyManifest_flow env o cmd files manifest hmanifest hprintable
    · have hbad : (isUtf8 cmd.correlationId && isUtf8 manifest.version) = false := by
        simpa [Printable] using hprintable
      dsimp only
      rw [applyManifest, Program.bind_error (reportStatus_error env o _ files)]
      · exact .unprintable (by simpa [reportable, hmanifest] using hbad)
      · have hnone : isUtf8 ([] : Str) = true := by decide
        rw [statusJson_printable, hnone, Bool.true_and]
        exact hbad

end SdvGateway.Gateway.OtaFlow

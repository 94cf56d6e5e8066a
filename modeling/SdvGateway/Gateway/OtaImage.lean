import Mathlib.Data.List.Basic
import Mathlib.Data.List.TakeDrop
import SdvGateway.Gateway.OtaStatus

/-! What the three files hold while commands are processed: which bytes reach
the installed path, what the statuses say about it, and which image survives a
copy that fails. -/
namespace SdvGateway.Gateway.OtaImage
open Common FirmwareHash Library OtaAgent OtaFlow OtaStatus

theorem copied_of_ne (outcome : FileCopy.Outcome) {source destination path : Path}
    (h : path ≠ destination) (files : Files) :
    copied outcome source destination files path = files path := by
  unfold copied
  cases files source with
  | none => rfl
  | some bytes => exact Function.update_of_ne h _ _

theorem copied_self {source destination : Path} {files : Files} {bytes : Bytes}
    (h : files source = some bytes) (outcome : FileCopy.Outcome) :
    copied outcome source destination files destination =
      outcome.result bytes (files destination) := by
  simp [copied, h]

@[simp] theorem downloaded_firmware (o : Outcomes) (files : Files) :
    downloaded o files .firmware = some o.received.flatten :=
  Function.update_self _ _ _

@[simp] theorem downloaded_installed (o : Outcomes) (files : Files) :
    downloaded o files .installed = files .installed :=
  Function.update_of_ne (by decide) _ _

@[simp] theorem backedUp_firmware (o : Outcomes) (files : Files) :
    backedUp o files .firmware = some o.received.flatten := by
  rw [backedUp, copied_of_ne _ (by decide), downloaded_firmware]

@[simp] theorem backedUp_installed (o : Outcomes) (files : Files) :
    backedUp o files .installed = files .installed := by
  rw [backedUp, copied_of_ne _ (by decide), downloaded_installed]

@[simp] theorem flashed_backup (o : Outcomes) (files : Files) :
    flashed o files .backup = backedUp o files .backup :=
  copied_of_ne _ (by decide) _

@[simp] theorem rolledBack_backup (o : Outcomes) (files : Files) :
    rolledBack o files .backup = backedUp o files .backup := by
  rw [rolledBack, copied_of_ne _ (by decide), flashed_backup]

theorem copySucceeds_backup {o : Outcomes} {files : Files}
    (h : copySucceeds o.backup .installed (downloaded o files) = true) :
    o.backup.succeeded = true ∧ ∃ old, files .installed = some old ∧
      backedUp o files .backup = some old := by
  rw [copySucceeds, downloaded_installed, Bool.and_eq_true, Option.isSome_iff_exists] at h
  obtain ⟨⟨old, hold⟩, hsucceeded⟩ := h
  refine ⟨hsucceeded, old, hold, ?_⟩
  rw [backedUp, copied_self ((downloaded_installed o files).trans hold)]
  exact FileCopy.Outcome.result_of_succeeded hsucceeded _ _

theorem flashed_installed (o : Outcomes) (files : Files) :
    flashed o files .installed = o.flash.result o.received.flatten (files .installed) := by
  rw [flashed, copied_self (backedUp_firmware o files), backedUp_installed]

theorem rolledBack_installed {o : Outcomes} {files : Files} {old : Bytes}
    (h : backedUp o files .backup = some old) :
    rolledBack o files .installed =
      o.rollback.result old (o.flash.result o.received.flatten (files .installed)) := by
  rw [rolledBack, copied_self ((flashed_backup o files).trans h), flashed_installed]

theorem copySucceeds_flash (o : Outcomes) (files : Files) :
    copySucceeds o.flash .firmware (backedUp o files) = o.flash.succeeded := by
  simp [copySucceeds]

def lastStatus (record : Record) : Option OtaStatus :=
  (reports record.moments).getLast?.map Prod.snd

def Truthful (env : Env) (record : Record) : Prop :=
  ∀ status, lastStatus record = some status →
    (status.state = .complete → ∃ manifest image,
      parseManifest env record.command.payloadJson = .ok manifest ∧
      record.after .installed = some image ∧
      hex (env.sha.digest image) = manifest.sha256) ∧
    (status.state = .failed → record.after .installed = record.before .installed) ∧
    (status.state = .rolledBack → record.after .installed = record.before .installed)

structure FlashFails (env : Env) (record : Record) (old : Bytes) : Prop where
  installed : record.before .installed = some old
  checked : ∃ manifest, Checked env record.outcomes record.command manifest record.before true
  backup : record.outcomes.backup.succeeded = true
  flash : record.outcomes.flash.succeeded = false

/-- How a failed flash copy and the rollback after it can leave the old image
in place: the rollback succeeds, or the files happen to hold it anyway. -/
def Restores (old image : Bytes) : FileCopy.Outcome → FileCopy.Outcome → Prop
  | _, .copied _ => True
  | .broken _ written, .refused => image.take written = old
  | _, .refused => True
  | _, .broken _ written => old.length ≤ written

/-- If the flash copy fails, the rollback restores what it found. -/
def RollbackSafe (env : Env) (record : Record) : Prop :=
  ∀ old, FlashFails env record old →
    Restores old record.outcomes.received.flatten record.outcomes.flash record.outcomes.rollback

theorem restores_iff {old image : Bytes} {flash rollback : FileCopy.Outcome}
    (h : flash.succeeded = false) :
    rollback.result old (flash.result image (some old)) = some old ↔
      Restores old image flash rollback := by
  cases rollback with
  | copied progress => simp [FileCopy.Outcome.result, Restores]
  | refused =>
    cases flash with
    | copied progress => simp [FileCopy.Outcome.succeeded] at h
    | refused => simp [FileCopy.Outcome.result, Restores]
    | broken progress written => simp [FileCopy.Outcome.result, Restores]
  | broken progress written =>
    cases flash <;> simp [FileCopy.Outcome.result, Restores]

theorem truthful_of_failed {env : Env} {record : Record} (version message : Str)
    (hlast : lastStatus record = some ⟨.failed, version, message, 0⟩)
    (hsame : record.after .installed = record.before .installed) : Truthful env record := by
  intro status hstatus
  obtain rfl := Option.some.inj (hlast.symm.trans hstatus)
  exact ⟨by simp, fun _ => hsame, by simp⟩

theorem truthful_of_complete {env : Env} {record : Record} (version : Str)
    (hlast : lastStatus record = some ⟨.complete, version, [], 100⟩)
    (himage : ∃ manifest image,
      parseManifest env record.command.payloadJson = .ok manifest ∧
      record.after .installed = some image ∧
      hex (env.sha.digest image) = manifest.sha256) : Truthful env record := by
  intro status hstatus
  obtain rfl := Option.some.inj (hlast.symm.trans hstatus)
  exact ⟨fun _ => himage, by simp, by simp⟩

theorem checked_accepts {env : Env} {o : Outcomes} {cmd : Command} {manifest : Manifest}
    {files : Files} (h : Checked env o cmd manifest files true) :
    hex (env.sha.digest o.received.flatten) = manifest.sha256 := by
  obtain ⟨image, himage, hhash⟩ := accepts_image h.accepts_eq
  rw [downloaded_firmware] at himage
  rwa [Option.some.inj himage]

private theorem checked_unique {env : Env} {o : Outcomes} {cmd : Command}
    {manifest other : Manifest} {files : Files} {first second : Bool}
    (h : Checked env o cmd manifest files first) (h' : Checked env o cmd other files second) :
    first = second := by
  obtain rfl := Except.ok.inj (h.manifest_eq.symm.trans h'.manifest_eq)
  exact h.accepts_eq.symm.trans h'.accepts_eq

theorem flow_backedUp {env : Env} {o : Outcomes} {cmd : Command} {files : Files}
    {execution : Execution Exception Files Moment Unit} {manifest : Manifest}
    (hflow : Flow env o cmd files execution) (hchecked : Checked env o cmd manifest files true)
    (hbackup : copySucceeds o.backup .installed (downloaded o files) = true) :
    (o.flash.succeeded = true ∧ execution = ⟨.ok (), flashed o files,
      installingMoments env o cmd.correlationId manifest files ++
        [reportMoment env o cmd.correlationId ⟨.complete, manifest.version, [], 100⟩
          (flashed o files)]⟩) ∨
    (o.flash.succeeded = false ∧ execution = ⟨.ok (), rolledBack o files,
      installingMoments env o cmd.correlationId manifest files ++
        copyMoments o.rollback .backup .installed (flashed o files) ++
        [reportMoment env o cmd.correlationId
          ⟨.rolledBack, manifest.version,
            lit "Flash failed — rolled back to previous firmware", 0⟩ (rolledBack o files)]⟩) := by
  have hspace := hchecked.space
  cases hflow with
  | unprintable hbad => simp [checked_reportable hchecked] at hbad
  | badManifest e hmanifest => simp [hchecked.manifest_eq] at hmanifest
  | spaceThrew _ _ _ hthrew => simp [hthrew] at hspace
  | deferred _ _ _ available havailable hlow =>
    obtain ⟨_, havailable', henough⟩ := hspace
    obtain rfl := Option.some.inj (havailable.symm.trans havailable')
    omega
  | notDownloaded _ _ _ _ _ _ _ hfail => simp [hchecked.download] at hfail
  | rejected _ hrejected => simpa using checked_unique hchecked hrejected
  | removeThrew _ hrejected => simpa using checked_unique hchecked hrejected
  | notBackedUp _ _ hnot => simp [hbackup] at hnot
  | flashFailed other hother _ hflash =>
    obtain rfl := Except.ok.inj (hchecked.manifest_eq.symm.trans hother.manifest_eq)
    exact .inr ⟨(copySucceeds_flash o files).symm.trans hflash, rfl⟩
  | complete other hother _ hflash =>
    obtain rfl := Except.ok.inj (hchecked.manifest_eq.symm.trans hother.manifest_eq)
    exact .inl ⟨(copySucceeds_flash o files).symm.trans hflash, rfl⟩

private theorem flow_of_flashFails {env : Env} {record : Record} {old : Bytes}
    (hflow : Flow env record.outcomes record.command record.before record.execution)
    (h : FlashFails env record old) :
    backedUp record.outcomes record.before .backup = some old ∧
      record.after = rolledBack record.outcomes record.before ∧
      ∃ version message, lastStatus record = some ⟨.rolledBack, version, message, 0⟩ := by
  obtain ⟨manifest, hchecked⟩ := h.checked
  have hbackup : copySucceeds record.outcomes.backup .installed
      (downloaded record.outcomes record.before) = true := by
    simp [copySucceeds, h.installed, h.backup]
  obtain ⟨_, old', hold', hsaved⟩ := copySucceeds_backup hbackup
  obtain rfl := Option.some.inj (h.installed.symm.trans hold')
  rcases flow_backedUp hflow hchecked hbackup with ⟨hflash, _⟩ | ⟨_, hexecution⟩
  · simp [h.flash] at hflash
  · refine ⟨hsaved, by simp [Record.after, hexecution], manifest.version,
      lit "Flash failed — rolled back to previous firmware", ?_⟩
    simp only [lastStatus, Record.moments, hexecution, reports_append,
      reports_installingMoments, reports_copyMoments, List.append_nil]
    rfl

private theorem truthful_or_flashFails {env : Env} {record : Record}
    (hflow : Flow env record.outcomes record.command record.before record.execution) :
    Truthful env record ∨ ∃ old, FlashFails env record old := by
  obtain ⟨command, o, files, execution⟩ := record
  dsimp only at hflow
  cases hflow with
  | unprintable hbad => exact .inl fun status h => by simp [lastStatus, Record.moments] at h
  | badManifest e hmanifest => exact .inl (truthful_of_failed _ _ rfl rfl)
  | spaceThrew _ _ _ hspace =>
    left
    intro status h
    cases h
    simp
  | deferred _ _ _ available hspace hlow => exact .inl (truthful_of_failed _ _ rfl rfl)
  | notDownloaded manifest _ _ _ _ partly moments hfail hdownload =>
    obtain ⟨hnone, hframe⟩ := downloadFirmware_frame hdownload
    left
    apply truthful_of_failed manifest.version (lit "Download failed")
    · simp only [lastStatus, Record.moments, reports_append, hnone, List.append_nil]
      rfl
    · exact hframe _ (by decide)
  | rejected manifest hchecked =>
    left
    apply truthful_of_failed manifest.version (lit "SHA256 mismatch — firmware rejected")
    · simp only [lastStatus, Record.moments, reports_append, reports_flow_checked]
      rfl
    · simp [Record.after]
  | removeThrew manifest hchecked =>
    left
    apply truthful_of_failed manifest.version (lit "SHA256 mismatch — firmware rejected")
    · simp only [lastStatus, Record.moments, reports_append, reports_flow_checked]
      rfl
    · simp [Record.after]
  | notBackedUp manifest _ hnot =>
    left
    apply truthful_of_failed manifest.version (lit "Backup failed — OTA aborted")
    · simp only [lastStatus, Record.moments, reports_append, reports_flow_checked,
        reports_copyMoments, List.append_nil]
      rfl
    · simp [Record.after]
  | flashFailed other hchecked hcopied hflash =>
    obtain ⟨hbackup, old, hold, _⟩ := copySucceeds_backup hcopied
    exact .inr ⟨old, hold, ⟨other, hchecked⟩, hbackup, by simpa [copySucceeds_flash] using hflash⟩
  | complete manifest hchecked _ hcopied =>
    rw [copySucceeds_flash] at hcopied
    refine .inl (truthful_of_complete manifest.version ?_ ⟨manifest, o.received.flatten,
      hchecked.manifest_eq, ?_, checked_accepts hchecked⟩)
    · simp only [lastStatus, Record.moments, reports_append, reports_installingMoments]
      rfl
    · simp [Record.after, flashed_installed, hcopied]

/-- The last status of every command of a run is true exactly when no failed
flash copy is followed by a rollback that does not restore the old image. -/
theorem statuses_truthful_iff (env : Env) (files : Files) (turns : List Turn) :
    (∀ record ∈ run env files turns, Truthful env record) ↔
      ∀ record ∈ run env files turns, RollbackSafe env record := by
  apply forall₂_congr
  intro record hrecord
  have hflow := flow_of_mem_run hrecord
  constructor
  · intro htruthful old hfails
    obtain ⟨hsaved, hafter, version, message, hlast⟩ := flow_of_flashFails hflow hfails
    have hsame := (htruthful _ hlast).2.2 rfl
    rw [hafter, rolledBack_installed hsaved, hfails.installed] at hsame
    exact (restores_iff hfails.flash).mp hsame
  · intro hsafe
    rcases truthful_or_flashFails hflow with htruthful | ⟨old, hfails⟩
    · exact htruthful
    · obtain ⟨hsaved, hafter, version, message, hlast⟩ := flow_of_flashFails hflow hfails
      have hrestored := (restores_iff hfails.flash).mpr (hsafe old hfails)
      intro status hstatus
      obtain rfl := Option.some.inj (hlast.symm.trans hstatus)
      refine ⟨by simp, by simp, fun _ => ?_⟩
      rw [hafter, rolledBack_installed hsaved, hfails.installed, hrestored]

/-- The flash copy breaks after one byte and the rollback right after opening
the installed file: the report says that the old image is back. -/
theorem statuses_untruthful_after_broken_rollback :
    ¬∀ record ∈ run sampleEnv sampleFiles
        [.command sampleCommand
          { sampleOutcomes with flash := .broken [] 1, rollback := .broken [] 0 }],
      Truthful sampleEnv record := by
  intro h
  have hrolledBack := ((h _ List.mem_cons_self) ⟨.rolledBack, lit "unknown",
    lit "Flash failed — rolled back to previous firmware", 0⟩ (by decide +kernel)).2.2 rfl
  revert hrolledBack
  decide +kernel

abbrev flashBegins : Event := .copyBegins .firmware .installed

def received (file : Option Bytes) (moment : Moment) : Option Bytes :=
  match moment.event with
  | .downloadOpened => some []
  | .downloadWrote chunk => file.map (· ++ chunk)
  | .removed => none
  | _ => file

def written (moments : List Moment) : Option Bytes := moments.foldl received none

private theorem received_writeMoments (files : Files) (start : Bytes) (chunks : List Bytes) :
    (writeMoments files start chunks).foldl received (some start) =
      some (start ++ chunks.flatten) := by
  induction chunks generalizing start with
  | nil => simp [writeMoments]
  | cons chunk rest ih => simp [writeMoments, received, ih]

private theorem received_copyMoments (outcome : FileCopy.Outcome) (source destination : Path)
    (files : Files) (file : Option Bytes) :
    (copyMoments outcome source destination files).foldl received file = file := by
  unfold copyMoments
  cases files source with
  | none => rfl
  | some bytes => simp [received, List.foldl_map]

theorem written_before_flash (env : Env) (o : Outcomes) (correlationId : Str)
    (manifest : Manifest) (files : Files) :
    written (checkedMoments env o correlationId manifest true files ++
      copyMoments o.backup .installed .backup (downloaded o files) ++
      [reportMoment env o correlationId ⟨.installing, manifest.version, [], 75⟩
        (backedUp o files)]) = some o.received.flatten := by
  simp [written, checkedMoments, downloadMoments, received, received_writeMoments,
    received_copyMoments, reportMoment]

theorem writeMoments_quiet {files : Files} {start : Bytes} {chunks : List Bytes}
    {moment : Moment} (h : moment ∈ writeMoments files start chunks) :
    moment.event ≠ flashBegins := by
  induction chunks generalizing start with
  | nil => simp [writeMoments] at h
  | cons chunk rest ih =>
    rcases List.mem_cons.mp h with rfl | h
    · simp
    · exact ih h

theorem downloadFirmware_quiet {o : Outcomes} {url : Str} {files partly : Files} {ok : Bool}
    {moments : List Moment} (h : downloadFirmware o url files = ⟨.ok ok, partly, moments⟩)
    {moment : Moment} (hmem : moment ∈ moments) : moment.event ≠ flashBegins := by
  rcases downloadFirmware_cases h with ⟨rfl, rfl⟩ | ⟨rfl, rfl⟩
  · rcases List.mem_cons.mp hmem with rfl | hmem
    · simp
    · exact writeMoments_quiet hmem
  · exact absurd hmem List.not_mem_nil

theorem checkedMoments_quiet {env : Env} {o : Outcomes} {correlationId : Str}
    {manifest : Manifest} {accepted : Bool} {files : Files} {moment : Moment}
    (h : moment ∈ checkedMoments env o correlationId manifest accepted files) :
    moment.event ≠ flashBegins := by
  simp only [checkedMoments, downloadMoments, List.mem_append, List.mem_cons, List.not_mem_nil,
    or_false] at h
  rcases h with ((rfl | rfl) | rfl | h) | rfl | rfl
  case inl.inr.inr => exact writeMoments_quiet h
  all_goals simp [reportMoment]

theorem copyMoments_quiet {outcome : FileCopy.Outcome} {source destination : Path}
    {files : Files} {moment : Moment}
    (h : moment ∈ copyMoments outcome source destination files) (hsource : source ≠ .firmware) :
    moment.event ≠ flashBegins := by
  unfold copyMoments at h
  rcases List.mem_cons.mp h with rfl | h
  · simp [hsource]
  · cases hfile : files source with
    | none => simp [hfile] at h
    | some bytes =>
      simp only [hfile, List.mem_map] at h
      obtain ⟨content, _, rfl⟩ := h
      simp

theorem backedUp_of_flash {env : Env} {o : Outcomes} {cmd : Command} {files : Files}
    {execution : Execution Exception Files Moment Unit} {moment : Moment}
    (hflow : Flow env o cmd files execution) (hmem : moment ∈ execution.trace)
    (hevent : moment.event = flashBegins) :
    ∃ manifest, Checked env o cmd manifest files true ∧
      copySucceeds o.backup .installed (downloaded o files) = true := by
  have hreport (status : OtaStatus) (now : Files) :
      moment ≠ reportMoment env o cmd.correlationId status now := by
    rintro rfl
    simp [reportMoment] at hevent
  have hchecked (manifest : Manifest) (accepted : Bool) :
      moment ∉ checkedMoments env o cmd.correlationId manifest accepted files :=
    fun h => checkedMoments_quiet h hevent
  cases hflow with
  | unprintable => simp at hmem
  | badManifest | spaceThrew | deferred => simp [hreport] at hmem
  | notDownloaded manifest _ _ _ _ partly moments _ hdownload =>
    have hquiet : moment ∉ moments := fun h => downloadFirmware_quiet hdownload h hevent
    simp [hreport, hquiet] at hmem
  | rejected manifest _ _ =>
    have hremoved : moment ≠ ⟨.removed, Function.update (downloaded o files) .firmware none⟩ := by
      rintro rfl
      simp at hevent
    simp [hreport, hchecked, hremoved] at hmem
  | removeThrew manifest _ _ => simp [hreport, hchecked] at hmem
  | notBackedUp manifest _ _ =>
    have hcopy : moment ∉ copyMoments o.backup .installed .backup (downloaded o files) :=
      fun h => copyMoments_quiet h (by decide) hevent
    simp [hreport, hchecked, hcopy] at hmem
  | flashFailed manifest haccepted hbackup _ => exact ⟨manifest, haccepted, hbackup⟩
  | complete manifest haccepted hbackup _ => exact ⟨manifest, haccepted, hbackup⟩

theorem trace_of_backedUp {env : Env} {o : Outcomes} {cmd : Command} {files : Files}
    {execution : Execution Exception Files Moment Unit} {manifest : Manifest}
    (hflow : Flow env o cmd files execution) (hchecked : Checked env o cmd manifest files true)
    (hbackup : copySucceeds o.backup .installed (downloaded o files) = true) :
    ∃ earlier later, execution.trace = earlier ++ ⟨flashBegins, backedUp o files⟩ :: later ∧
      written earlier = some o.received.flatten ∧
      (∀ moment ∈ earlier, moment.event ≠ flashBegins) ∧
      ∀ moment ∈ later, moment.event ≠ flashBegins := by
  have hreport (status : OtaStatus) (now : Files) :
      (reportMoment env o cmd.correlationId status now).event ≠ flashBegins := by
    simp [reportMoment]
  have hearlier (moment : Moment)
      (h : moment ∈ checkedMoments env o cmd.correlationId manifest true files ++
        copyMoments o.backup .installed .backup (downloaded o files) ++
        [reportMoment env o cmd.correlationId ⟨.installing, manifest.version, [], 75⟩
          (backedUp o files)]) : moment.event ≠ flashBegins := by
    simp only [List.mem_append, List.mem_singleton] at h
    rcases h with (h | h) | rfl
    · exact checkedMoments_quiet h
    · exact copyMoments_quiet h (by decide)
    · exact hreport _ _
  have hcopying (moment : Moment)
      (h : moment ∈ (o.flash.contents o.received.flatten).map fun content =>
        (⟨.copying .firmware .installed,
          Function.update (backedUp o files) .installed (some content)⟩ : Moment)) :
      moment.event ≠ flashBegins := by
    obtain ⟨content, _, rfl⟩ := List.mem_map.mp h
    simp
  have hflash : copyMoments o.flash .firmware .installed (backedUp o files) =
      ⟨flashBegins, backedUp o files⟩ :: (o.flash.contents o.received.flatten).map fun content =>
        ⟨.copying .firmware .installed,
          Function.update (backedUp o files) .installed (some content)⟩ := by
    simp [copyMoments]
  rcases flow_backedUp hflow hchecked hbackup with ⟨_, rfl⟩ | ⟨_, rfl⟩
  · refine ⟨_, _, by rw [installingMoments, hflash, List.append_assoc, List.cons_append],
      written_before_flash env o cmd.correlationId manifest files, hearlier, ?_⟩
    simp only [List.forall_mem_append, List.forall_mem_singleton]
    exact ⟨hcopying, hreport _ _⟩
  · refine ⟨_, _, by rw [installingMoments, hflash, List.append_assoc, List.append_assoc,
      List.cons_append], written_before_flash env o cmd.correlationId manifest files, hearlier, ?_⟩
    simp only [List.forall_mem_append, List.forall_mem_singleton]
    exact ⟨hcopying, fun moment h => copyMoments_quiet h (by decide), hreport _ _⟩

/-- Whenever the flash copy begins, the bytes at the firmware path are the ones
this command's download has written, and their hash is its manifest's. -/
theorem flashed_image_verified (env : Env) (files : Files) (turns : List Turn) :
    ∀ record ∈ run env files turns, ∀ earlier moment later,
      record.moments = earlier ++ moment :: later → moment.event = flashBegins →
      ∃ manifest image, parseManifest env record.command.payloadJson = .ok manifest ∧
        moment.files .firmware = some image ∧
        written earlier = some image ∧
        hex (env.sha.digest image) = manifest.sha256 := by
  intro record hrecord earlier moment later hmoments hevent
  have hflow := flow_of_mem_run hrecord
  have hmem : moment ∈ record.moments := by simp [hmoments]
  obtain ⟨manifest, hchecked, hbackup⟩ := backedUp_of_flash hflow hmem hevent
  obtain ⟨earlier', later', htrace, hwritten, hearlier, hlater⟩ :=
    trace_of_backedUp hflow hchecked hbackup
  have hsplit := htrace.symm.trans hmoments
  rw [List.append_cons_inj_of_notMem (fun h => hearlier _ h hevent)
    (fun h => hlater _ h hevent)] at hsplit
  obtain ⟨rfl, rfl, -⟩ := hsplit
  exact ⟨manifest, record.outcomes.received.flatten, hchecked.manifest_eq,
    backedUp_firmware _ _, hwritten, checked_accepts hchecked⟩

private theorem sampleRun_ok :
    (processCommand sampleEnv sampleOutcomes sampleCommand sampleFiles).outcome = .ok () := by
  rw [flow_ok_iff (processCommand_flow _ _ _ _)]
  refine ⟨by decide +kernel, fun manifest _ => ⟨200 * 1024 * 1024, rfl, fun _ _ => rfl⟩⟩

theorem flashed_image_verified_abc :
    ∃ moment ∈ (process sampleEnv sampleFiles sampleCommand sampleOutcomes).moments,
      ∃ manifest image, parseManifest sampleEnv sampleManifest = .ok manifest ∧
        moment.files .firmware = some image ∧
        hex (sampleEnv.sha.digest image) = manifest.sha256 := by
  have hflash : ∃ moment ∈ (process sampleEnv sampleFiles sampleCommand sampleOutcomes).moments,
      moment.event = flashBegins := by decide +kernel
  obtain ⟨moment, hmem, hevent⟩ := hflash
  obtain ⟨earlier, later, hmoments⟩ := List.append_of_mem hmem
  have hrecord : process sampleEnv sampleFiles sampleCommand sampleOutcomes ∈
      run sampleEnv sampleFiles [.command sampleCommand sampleOutcomes] := by
    rw [run_command_ok sampleRun_ok]
    exact List.mem_cons_self
  obtain ⟨manifest, image, hmanifest, hfile, _, hhash⟩ :=
    flashed_image_verified sampleEnv sampleFiles [.command sampleCommand sampleOutcomes]
      _ hrecord earlier moment later hmoments hevent
  exact ⟨moment, hmem, manifest, image, hmanifest, hfile, hhash⟩

end SdvGateway.Gateway.OtaImage

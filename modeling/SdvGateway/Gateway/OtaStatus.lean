import SdvGateway.Gateway.OtaFlow

/-! What the reported statuses promise. A command ends in one terminal status
unless an exception escapes, and that status describes the installed file
except after a rollback that failed. -/
namespace SdvGateway.Gateway.OtaStatus
open Common FirmwareHash Library OtaAgent OtaFlow

theorem record_of_mem_run {env : Env} {files : Files} {turns : List Turn} {record : Record}
    (h : record ∈ run env files turns) :
    ∃ start, record = process env start record.command record.outcomes := by
  induction turns generalizing files with
  | nil => simp [run] at h
  | cons turn rest ih =>
    cases turn with
    | timeout => exact ih h
    | command cmd o =>
      simp only [run] at h
      split at h
      · rcases List.mem_cons.mp h with rfl | h
        · exact ⟨files, rfl⟩
        · exact ih h
      · obtain rfl := List.mem_singleton.mp h
        exact ⟨files, rfl⟩

theorem flow_of_mem_run {env : Env} {files : Files} {turns : List Turn} {record : Record}
    (h : record ∈ run env files turns) :
    Flow env record.outcomes record.command record.before record.execution := by
  obtain ⟨start, hrecord⟩ := record_of_mem_run h
  rw [hrecord]
  exact processCommand_flow _ _ _ _

theorem reports_append (first second : List Moment) :
    reports (first ++ second) = reports first ++ reports second :=
  List.filterMap_append

theorem reports_cons_report (env : Env) (o : Outcomes) (correlationId : Str)
    (status : OtaStatus) (files : Files) (rest : List Moment) :
    reports (reportMoment env o correlationId status files :: rest) =
      (correlationId, status) :: reports rest := rfl

@[simp] theorem reports_nil : reports [] = [] := rfl

private theorem reports_writeMoments (files : Files) (written : Bytes) (chunks : List Bytes) :
    reports (writeMoments files written chunks) = [] := by
  induction chunks generalizing written with
  | nil => rfl
  | cons chunk rest ih => exact ih _

theorem reports_downloadMoments (files : Files) (chunks : List Bytes) :
    reports (downloadMoments files chunks) = [] :=
  reports_writeMoments _ _ _

theorem reports_copyMoments (outcome : FileCopy.Outcome) (source destination : Path)
    (files : Files) : reports (copyMoments outcome source destination files) = [] := by
  unfold copyMoments
  cases files source with
  | none => rfl
  | some bytes =>
    change reports ((outcome.contents bytes).map _) = []
    simp [reports, List.filterMap_map]

theorem downloadFirmware_frame {o : Outcomes} {url : Str} {files partly : Files} {ok : Bool}
    {moments : List Moment} (h : downloadFirmware o url files = ⟨.ok ok, partly, moments⟩) :
    reports moments = [] ∧ ∀ path ≠ .firmware, partly path = files path := by
  rcases downloadFirmware_cases h with ⟨rfl, rfl⟩ | ⟨rfl, rfl⟩
  · exact ⟨reports_downloadMoments _ _, fun path hpath => Function.update_of_ne hpath _ _⟩
  · exact ⟨rfl, fun _ _ => rfl⟩

def terminal : OtaState → Bool
  | .complete | .failed | .rolledBack => true
  | _ => false

/-- Statuses that carry the id, where the last is the only terminal one and a
success or a rollback comes after the installation began. -/
def WellReported (correlationId : Str) (statuses : List (Str × OtaStatus)) : Prop :=
  ∃ (earlier : List (Str × OtaStatus)) (last : Str × OtaStatus),
    statuses = earlier ++ [last] ∧
    (∀ report ∈ statuses, report.1 = correlationId) ∧
    terminal last.2.state = true ∧
    (∀ report ∈ earlier, terminal report.2.state = false) ∧
    (last.2.state = .complete ∨ last.2.state = .rolledBack →
      ∃ report ∈ earlier, report.2.state = .installing)

def commands (turns : List Turn) : List (Command × Outcomes) :=
  turns.filterMap fun turn =>
    match turn with
    | .timeout => none
    | .command cmd o => some (cmd, o)

/-- Every command of the queue is dequeued, reported to its end, and lets no
exception out of the worker. -/
def AllReported (env : Env) (files : Files) (turns : List Turn) : Prop :=
  (run env files turns).map (fun record => (record.command, record.outcomes)) = commands turns ∧
  ∀ record ∈ run env files turns, record.execution.outcome = .ok () ∧
    WellReported record.command.correlationId (reports record.moments)

def rejects (env : Env) (o : Outcomes) (manifest : Manifest) : Bool :=
  downloadSucceeds o &&
    !(o.verifyOpens && hex (env.sha.digest o.received.flatten) == manifest.sha256)

/-- Neither of the two unguarded file-system calls throws when it is reached,
and the statuses are well-formed text. -/
def Contained (env : Env) (cmd : Command) (o : Outcomes) : Prop :=
  reportable env cmd = true ∧
  ∀ manifest, parseManifest env cmd.payloadJson = .ok manifest →
    ∃ available, o.space = some available ∧
      (minFreeBytes ≤ available → rejects env o manifest = true → o.removeOk = true)

theorem checked_rejects {env : Env} {o : Outcomes} {cmd : Command} {manifest : Manifest}
    {files : Files} {accepted : Bool} (h : Checked env o cmd manifest files accepted) :
    rejects env o manifest = !accepted := by
  have haccepts := h.accepts_eq
  simp only [accepts, downloaded, Function.update_self] at haccepts
  rw [rejects, h.download, Bool.true_and, haccepts]

theorem checked_reportable {env : Env} {o : Outcomes} {cmd : Command} {manifest : Manifest}
    {files : Files} {accepted : Bool} (h : Checked env o cmd manifest files accepted) :
    reportable env cmd = true := by
  simp [reportable, h.manifest_eq, h.printable.1, h.printable.2]

private theorem checked_contained {env : Env} {o : Outcomes} {cmd : Command} {manifest : Manifest}
    {files : Files} {accepted : Bool} (h : Checked env o cmd manifest files accepted)
    (hremove : accepted = false → o.removeOk = true) : Contained env cmd o := by
  obtain ⟨available, hspace, _⟩ := h.space
  refine ⟨checked_reportable h, fun other hother => ⟨available, hspace, fun _ hrejects => ?_⟩⟩
  obtain rfl := Except.ok.inj (h.manifest_eq.symm.trans hother)
  rw [checked_rejects h] at hrejects
  exact hremove (by simpa using hrejects)

/-- No exception escapes exactly when the command is contained. -/
theorem flow_ok_iff {env : Env} {o : Outcomes} {cmd : Command} {files : Files}
    {execution : Execution Exception Files Moment Unit}
    (h : Flow env o cmd files execution) :
    execution.outcome = .ok () ↔ Contained env cmd o := by
  cases h with
  | unprintable h => simp [Contained, h]
  | badManifest e hmanifest hprintable =>
    simp [Contained, reportable, hmanifest, hprintable]
  | spaceThrew manifest hmanifest hprintable hspace =>
    simp [Contained, hmanifest, hspace]
  | deferred manifest hmanifest hprintable available hspace hlow =>
    simp only [true_iff]
    refine ⟨by simp [reportable, hmanifest, hprintable.1, hprintable.2], fun _ _ =>
      ⟨available, hspace, fun henough => ?_⟩⟩
    omega
  | notDownloaded manifest hmanifest hprintable available hspace partly moments hfail hdownload =>
    simp only [true_iff]
    exact ⟨by simp [reportable, hmanifest, hprintable.1, hprintable.2], fun _ _ =>
      ⟨available, hspace, fun _ hrejects => by simp [rejects, hfail] at hrejects⟩⟩
  | rejected manifest hchecked hremove => simpa using checked_contained hchecked fun _ => hremove
  | removeThrew manifest hchecked hremove =>
    simp only [reduceCtorEq, false_iff]
    intro hcontained
    obtain ⟨available, hspace, hrest⟩ := hcontained.2 manifest hchecked.manifest_eq
    obtain ⟨_, hspace', henough⟩ := hchecked.space
    obtain rfl := Option.some.inj (hspace.symm.trans hspace')
    simp [hrest henough (by simp [checked_rejects hchecked])] at hremove
  | notBackedUp manifest hchecked _ => simpa using checked_contained hchecked (by simp)
  | flashFailed manifest hchecked _ _ => simpa using checked_contained hchecked (by simp)
  | complete manifest hchecked _ _ => simpa using checked_contained hchecked (by simp)

def begun (correlationId version : Str) : List (Str × OtaStatus) :=
  [(correlationId, ⟨.manifestReceived, version, [], 0⟩),
    (correlationId, ⟨.downloading, version, [], 10⟩)]

def checked (correlationId version : Str) : List (Str × OtaStatus) :=
  begun correlationId version ++ [(correlationId, ⟨.verifying, version, [], 50⟩)]

def installing (correlationId version : Str) : List (Str × OtaStatus) :=
  checked correlationId version ++ [(correlationId, ⟨.installing, version, [], 75⟩)]

theorem wellReported_failed (correlationId version : Str) (message : Str)
    {earlier : List (Str × OtaStatus)}
    (h : earlier = [] ∨ earlier = [(correlationId, ⟨.manifestReceived, version, [], 0⟩)] ∨
      earlier = begun correlationId version ∨ earlier = checked correlationId version)
    (reported : Str) :
    WellReported correlationId
      (earlier ++ [(correlationId, ⟨.failed, reported, message, 0⟩)]) := by
  refine ⟨earlier, _, rfl, ?_, rfl, ?_, by simp⟩ <;>
    rcases h with rfl | rfl | rfl | rfl <;> simp [begun, checked, terminal]

theorem wellReported_installed (correlationId version : Str) {last : OtaStatus}
    (h : last.state = .complete ∨ last.state = .rolledBack) :
    WellReported correlationId (installing correlationId version ++ [(correlationId, last)]) := by
  refine ⟨_, _, rfl, ?_, ?_, ?_, fun _ => ?_⟩
  · simp [installing, checked, begun]
  · rcases h with h | h <;> simp [terminal, h]
  · simp [installing, checked, begun, terminal]
  · simp [installing, checked, begun]

theorem reports_flow_checked (env : Env) (o : Outcomes) (correlationId : Str)
    (manifest : Manifest) (accepted : Bool) (files : Files) :
    reports (checkedMoments env o correlationId manifest accepted files) =
      checked correlationId manifest.version := by
  simp only [checkedMoments, reports_append, reports_downloadMoments, reports_cons_report]
  rfl

theorem reports_installingMoments (env : Env) (o : Outcomes) (correlationId : Str)
    (manifest : Manifest) (files : Files) :
    reports (installingMoments env o correlationId manifest files) =
      installing correlationId manifest.version := by
  simp only [installingMoments, reports_append, reports_flow_checked, reports_copyMoments,
    reports_cons_report, List.append_nil]
  rfl

theorem flow_reported {env : Env} {o : Outcomes} {cmd : Command} {files : Files}
    {execution : Execution Exception Files Moment Unit}
    (h : Flow env o cmd files execution) (hok : execution.outcome = .ok ()) :
    WellReported cmd.correlationId (reports execution.trace) := by
  cases h with
  | unprintable h => simp at hok
  | badManifest e hmanifest hprintable =>
    exact wellReported_failed _ [] _ (.inl rfl) _
  | spaceThrew manifest hmanifest hprintable hspace => simp at hok
  | deferred manifest hmanifest hprintable available hspace hlow =>
    exact wellReported_failed _ manifest.version _ (.inr (.inl rfl)) _
  | notDownloaded manifest hmanifest hprintable available hspace partly moments hfail hdownload =>
    simp only [reports_append, (downloadFirmware_frame hdownload).1]
    exact wellReported_failed _ manifest.version _ (.inr (.inr (.inl rfl))) _
  | rejected manifest hchecked hremove =>
    simp only [reports_append, reports_flow_checked]
    exact wellReported_failed _ manifest.version _ (.inr (.inr (.inr rfl))) _
  | removeThrew manifest hchecked hremove => simp at hok
  | notBackedUp manifest hchecked hbackup =>
    simp only [reports_append, reports_flow_checked, reports_copyMoments, List.append_nil]
    exact wellReported_failed _ manifest.version _ (.inr (.inr (.inr rfl))) _
  | flashFailed manifest hchecked hbackup hflash =>
    simp only [reports_append, reports_installingMoments, reports_copyMoments, List.append_nil]
    exact wellReported_installed _ _ (.inr rfl)
  | complete manifest hchecked hbackup hflash =>
    simp only [reports_append, reports_installingMoments]
    exact wellReported_installed _ _ (.inl rfl)

theorem run_command_ok {env : Env} {files : Files} {cmd : Command} {o : Outcomes}
    (h : (processCommand env o cmd files).outcome = .ok ()) (rest : List Turn) :
    run env files (.command cmd o :: rest) =
      process env files cmd o :: run env (process env files cmd o).after rest := by
  simp [run, process, Record.after, h]

theorem run_command_error {env : Env} {files : Files} {cmd : Command} {o : Outcomes}
    {e : Exception} (h : (processCommand env o cmd files).outcome = .error e)
    (rest : List Turn) :
    run env files (.command cmd o :: rest) = [process env files cmd o] := by
  simp [run, process, h]

theorem mem_commands_of_mem_run {env : Env} {files : Files} {turns : List Turn}
    {record : Record} (h : record ∈ run env files turns) :
    (record.command, record.outcomes) ∈ commands turns := by
  induction turns generalizing files with
  | nil => simp [run] at h
  | cons turn rest ih =>
    cases turn with
    | timeout => exact ih h
    | command cmd o =>
      cases hrun : (processCommand env o cmd files).outcome with
      | ok _ =>
        rw [run_command_ok hrun] at h
        rcases List.mem_cons.mp h with rfl | h
        · exact List.mem_cons_self
        · exact List.mem_cons_of_mem _ (ih h)
      | error _ =>
        rw [run_command_error hrun] at h
        obtain rfl := List.mem_singleton.mp h
        exact List.mem_cons_self

private theorem run_serves_all {env : Env} (files : Files) {turns : List Turn}
    (h : ∀ command ∈ commands turns, Contained env command.1 command.2) :
    (run env files turns).map (fun record => (record.command, record.outcomes)) =
      commands turns := by
  induction turns generalizing files with
  | nil => rfl
  | cons turn rest ih =>
    cases turn with
    | timeout => exact ih files h
    | command cmd o =>
      have hfirst : Contained env cmd o := h (cmd, o) List.mem_cons_self
      have hok := (flow_ok_iff (processCommand_flow env o cmd files)).mpr hfirst
      rw [run_command_ok hok, List.map_cons,
        ih _ fun command hcommand => h command (List.mem_cons_of_mem _ hcommand)]
      rfl

/-- The worker serves the whole queue, and reports every command to its end,
exactly when every command in it is contained. -/
theorem allReported_iff_contained (env : Env) (files : Files) (turns : List Turn) :
    AllReported env files turns ↔
      ∀ command ∈ commands turns, Contained env command.1 command.2 := by
  constructor
  · rintro ⟨hall, hok⟩ command hcommand
    rw [← hall] at hcommand
    obtain ⟨record, hrecord, rfl⟩ := List.mem_map.mp hcommand
    exact (flow_ok_iff (flow_of_mem_run hrecord)).mp (hok record hrecord).1
  · intro hcontained
    have hall := run_serves_all files hcontained
    refine ⟨hall, fun record hrecord => ?_⟩
    have hmem : (record.command, record.outcomes) ∈ commands turns :=
      hall ▸ List.mem_map_of_mem hrecord
    have hflow := flow_of_mem_run hrecord
    have hok := (flow_ok_iff hflow).mpr (hcontained _ hmem)
    exact ⟨hok, flow_reported hflow hok⟩

def abcDigest : Vector UInt8 32 := #v[
  0xba, 0x78, 0x16, 0xbf, 0x8f, 0x01, 0xcf, 0xea, 0x41, 0x41, 0x40, 0xde, 0x5d, 0xae, 0x22, 0x23,
  0xb0, 0x03, 0x61, 0xa3, 0x96, 0x17, 0x7a, 0x9c, 0xb4, 0x10, 0xff, 0x61, 0xf2, 0x00, 0x15, 0xad]

def sampleHash : Str := lit "ba7816bf8f01cfea414140de5dae2223b00361a396177a9cb410ff61f20015ad"

def sampleManifest : Str :=
  [0x7B] ++ lit "\"sha256\":\"" ++ sampleHash ++ lit "\",\"url\":\"https://fleet/fw.bin\"" ++ [0x7D]

def sampleEnv : Env where
  json :=
    { parse := fun text =>
        if text = sampleManifest then
          .ok (.object [(lit "sha256", .string sampleHash),
            (lit "url", .string (lit "https://fleet/fw.bin"))])
        else .error .parseError
      floatText := fun _ => lit "0.0" }
  sha := Sha256.ofDigest fun bytes =>
    if bytes = lit "abc" then abcDigest else Vector.replicate 32 0
  uin := lit "2T1BURHE0JC123456"

def sampleCommand : Command := ⟨.otaTrigger, lit "c1", sampleManifest⟩

def sampleOutcomes : Outcomes where
  space := some (200 * 1024 * 1024)
  curlInit := true
  fopen := true
  received := [lit "abc"]
  performOk := true
  httpCode := 200
  verifyOpens := true
  removeOk := true
  backup := .copied []
  flash := .copied []
  rollback := .copied []
  published := fun _ => true

def sampleFiles : Files := fun path => if path = .installed then some (lit "old") else none

/-- `space` throws while the first of two commands is processed: the exception
ends the worker, and the second command is never dequeued. -/
theorem allReported_fails_when_space_throws :
    ¬AllReported sampleEnv sampleFiles
      [.command sampleCommand { sampleOutcomes with space := none },
        .command sampleCommand sampleOutcomes] := by
  rintro ⟨hall, _⟩
  have hlength := congrArg List.length hall
  revert hlength
  decide +kernel

end SdvGateway.Gateway.OtaStatus

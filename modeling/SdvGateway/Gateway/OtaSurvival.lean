import SdvGateway.Gateway.OtaImage

/-! Which image is left when copies fail. The moments of all commands form one
timeline; the good images are the one found at the start and those that a hash
check accepts along the way. -/
namespace SdvGateway.Gateway.OtaSurvival
open Common FirmwareHash Library OtaAgent OtaFlow OtaStatus OtaImage

def learn (good : List Bytes) (moment : Moment) : List Bytes :=
  if moment.event = .verified true then (moment.files .firmware).toList ++ good else good

def Kept (good : List Bytes) (path : Path) (files : Files) : Prop :=
  ∃ image ∈ good, files path = some image

instance : Decidable (Kept good path files) :=
  inferInstanceAs (Decidable (∃ image ∈ good, files path = some image))

/-- At every moment one of the two paths holds an image that is good by then. -/
def Survives : List Bytes → List Moment → Prop
  | _, [] => True
  | good, moment :: rest =>
    (Kept (learn good moment) .installed moment.files ∨
      Kept (learn good moment) .backup moment.files) ∧
    Survives (learn good moment) rest

instance decidableSurvives : (good : List Bytes) → (moments : List Moment) →
    Decidable (Survives good moments)
  | _, [] => isTrue trivial
  | good, moment :: rest =>
    have := decidableSurvives (learn good moment) rest
    inferInstanceAs (Decidable (_ ∧ _))

def timeline (records : List Record) : List Moment := records.flatMap Record.moments

/-- The command gets as far as its backup copy, and that copy opens the backup. -/
def OverwritesBackup (env : Env) (record : Record) : Prop :=
  (∃ manifest, Checked env record.outcomes record.command manifest record.before true) ∧
  record.outcomes.backup ≠ .refused

theorem subset_learn (good : List Bytes) (moment : Moment) : good ⊆ learn good moment := by
  unfold learn
  split
  · exact List.subset_append_right _ _
  · exact List.Subset.refl _

theorem subset_learned (good : List Bytes) (moments : List Moment) :
    good ⊆ moments.foldl learn good := by
  induction moments generalizing good with
  | nil => exact List.Subset.refl _
  | cons moment rest ih => exact List.Subset.trans (subset_learn good moment) (ih _)

theorem Kept.mono {good better : List Bytes} {path : Path} {files : Files}
    (h : Kept good path files) (hsubset : good ⊆ better) : Kept better path files := by
  obtain ⟨image, hgood, hfile⟩ := h
  exact ⟨image, hsubset hgood, hfile⟩

theorem Kept.congr {good : List Bytes} {path : Path} {files files' : Files}
    (h : Kept good path files) (hsame : files' path = files path) : Kept good path files' := by
  obtain ⟨image, hgood, hfile⟩ := h
  exact ⟨image, hgood, hsame.trans hfile⟩

theorem survives_append (good : List Bytes) (first second : List Moment) :
    Survives good (first ++ second) ↔
      Survives good first ∧ Survives (first.foldl learn good) second := by
  induction first generalizing good with
  | nil => simp [Survives]
  | cons moment rest ih => simp [Survives, ih, and_assoc]

def Unchanged (path : Path) (files : Files) (moments : List Moment) : Prop :=
  ∀ moment ∈ moments, moment.files path = files path

theorem unchanged_append (path : Path) (files : Files) (first second : List Moment) :
    Unchanged path files (first ++ second) ↔
      Unchanged path files first ∧ Unchanged path files second :=
  List.forall_mem_append

theorem unchanged_cons (path : Path) (files : Files) (moment : Moment) (rest : List Moment) :
    Unchanged path files (moment :: rest) ↔
      moment.files path = files path ∧ Unchanged path files rest :=
  List.forall_mem_cons

theorem unchanged_nil (path : Path) (files : Files) : Unchanged path files [] :=
  List.forall_mem_nil _

theorem survives_of_unchanged {good : List Bytes} {path : Path} {files : Files}
    {moments : List Moment} (hpath : path = .installed ∨ path = .backup)
    (hkept : Kept good path files) (hsame : Unchanged path files moments) :
    Survives good moments := by
  induction moments generalizing good with
  | nil => trivial
  | cons moment rest ih =>
    obtain ⟨hmoment, hrest⟩ := (unchanged_cons _ _ _ _).mp hsame
    have hnow := (hkept.mono (subset_learn good moment)).congr hmoment
    refine ⟨?_, ih (hkept.mono (subset_learn good moment)) hrest⟩
    rcases hpath with rfl | rfl
    · exact .inl hnow
    · exact .inr hnow

@[simp] theorem reportMoment_files (env : Env) (o : Outcomes) (correlationId : Str)
    (status : OtaStatus) (files : Files) :
    (reportMoment env o correlationId status files).files = files := rfl

private theorem unchanged_writeMoments {path : Path} (hpath : path ≠ .firmware) (files : Files)
    (written : Bytes) (chunks : List Bytes) :
    Unchanged path files (writeMoments files written chunks) := by
  induction chunks generalizing written with
  | nil => exact unchanged_nil _ _
  | cons chunk rest ih =>
    exact (unchanged_cons _ _ _ _).mpr ⟨Function.update_of_ne hpath _ _, ih _⟩

theorem unchanged_downloadMoments {path : Path} (hpath : path ≠ .firmware) (files : Files)
    (chunks : List Bytes) : Unchanged path files (downloadMoments files chunks) :=
  (unchanged_cons _ _ _ _).mpr
    ⟨Function.update_of_ne hpath _ _, unchanged_writeMoments hpath _ _ _⟩

theorem unchanged_download {o : Outcomes} {url : Str} {files partly : Files} {ok : Bool}
    {moments : List Moment} (h : downloadFirmware o url files = ⟨.ok ok, partly, moments⟩)
    {path : Path} (hpath : path ≠ .firmware) : Unchanged path files moments := by
  rcases downloadFirmware_cases h with ⟨rfl, rfl⟩ | ⟨rfl, rfl⟩
  · exact unchanged_downloadMoments hpath _ _
  · exact unchanged_nil _ _

theorem unchanged_checkedMoments (env : Env) (o : Outcomes) (correlationId : Str)
    (manifest : Manifest) (accepted : Bool) (files : Files) {path : Path}
    (hpath : path ≠ .firmware) :
    Unchanged path files (checkedMoments env o correlationId manifest accepted files) := by
  have hdownloaded : downloaded o files path = files path := Function.update_of_ne hpath _ _
  simp [checkedMoments, unchanged_append, unchanged_cons, unchanged_nil,
    unchanged_downloadMoments hpath, hdownloaded]

theorem unchanged_copyMoments (outcome : FileCopy.Outcome) (source : Path)
    {destination path : Path} {files files' : Files} (hpath : path ≠ destination)
    (hsame : files' path = files path) :
    Unchanged path files (copyMoments outcome source destination files') := by
  intro moment hmoment
  unfold copyMoments at hmoment
  rcases List.mem_cons.mp hmoment with rfl | hmoment
  · exact hsame
  · cases hsource : files' source with
    | none => simp [hsource] at hmoment
    | some bytes =>
      simp only [hsource, List.mem_map] at hmoment
      obtain ⟨content, _, rfl⟩ := hmoment
      exact (Function.update_of_ne hpath _ _).trans hsame

private theorem copied_refused (source destination : Path) (files : Files) :
    copied .refused source destination files = files := by
  unfold copied
  cases files source with
  | none => rfl
  | some bytes => exact Function.update_eq_self _ _

private theorem unchanged_refused (source destination : Path) {path : Path} {files files' : Files}
    (hsame : files' path = files path) :
    Unchanged path files (copyMoments .refused source destination files') := by
  have hmoments : copyMoments .refused source destination files' =
      [⟨.copyBegins source destination, files'⟩] := by
    unfold copyMoments
    cases files' source <;> rfl
  rw [hmoments]
  exact (unchanged_cons _ _ _ _).mpr ⟨hsame, unchanged_nil _ _⟩

theorem flow_unchanged {env : Env} {o : Outcomes} {cmd : Command} {files : Files}
    {execution : Execution Exception Files Moment Unit} {path : Path}
    (hflow : Flow env o cmd files execution) (hpath : path ≠ .firmware)
    (hcopy : ∀ manifest, Checked env o cmd manifest files true →
      copySucceeds o.backup .installed (downloaded o files) = false ∧
      (path = .backup → o.backup = .refused)) :
    Unchanged path files execution.trace ∧ execution.state path = files path := by
  have hdownloaded : downloaded o files path = files path := Function.update_of_ne hpath _ _
  cases hflow with
  | unprintable => simp [unchanged_nil]
  | badManifest | spaceThrew | deferred => simp [unchanged_cons, unchanged_nil]
  | notDownloaded manifest _ _ _ _ partly moments _ hdownload =>
    have hframe := (downloadFirmware_frame hdownload).2 path hpath
    simp [unchanged_append, unchanged_cons, unchanged_nil, hframe,
      unchanged_download hdownload hpath]
  | rejected manifest _ _ =>
    have hremoved : Function.update (downloaded o files) .firmware none path = files path :=
      (Function.update_of_ne hpath _ _).trans hdownloaded
    simp [unchanged_append, unchanged_cons, unchanged_nil, hdownloaded, hremoved,
      unchanged_checkedMoments _ _ _ _ _ _ hpath]
  | removeThrew manifest _ _ =>
    simp [unchanged_append, unchanged_cons, unchanged_nil, hdownloaded,
      unchanged_checkedMoments _ _ _ _ _ _ hpath]
  | notBackedUp manifest hchecked _ =>
    have hbackup : Unchanged path files
        (copyMoments o.backup .installed .backup (downloaded o files)) ∧
        backedUp o files path = files path := by
      by_cases hpath' : path = .backup
      · rw [backedUp, (hcopy manifest hchecked).2 hpath', copied_refused, hdownloaded]
        exact ⟨unchanged_refused _ _ hdownloaded, rfl⟩
      · exact ⟨unchanged_copyMoments _ _ hpath' hdownloaded,
          (copied_of_ne _ hpath' _).trans hdownloaded⟩
    simp [unchanged_append, unchanged_cons, unchanged_nil, hbackup,
      unchanged_checkedMoments _ _ _ _ _ _ hpath]
  | flashFailed manifest hchecked hbackup _ =>
    simp [(hcopy manifest hchecked).1] at hbackup
  | complete manifest hchecked hbackup _ =>
    simp [(hcopy manifest hchecked).1] at hbackup

private theorem mem_learned (moment : Moment) {moments : List Moment} {image : Bytes}
    (hmem : moment ∈ moments) (hevent : moment.event = .verified true)
    (hfile : moment.files .firmware = some image) (good : List Bytes) :
    image ∈ moments.foldl learn good := by
  induction moments generalizing good with
  | nil => simp at hmem
  | cons first rest ih =>
    rcases List.mem_cons.mp hmem with rfl | hrest
    · have hnow : image ∈ learn good moment := by simp [learn, hevent, hfile]
      exact subset_learned (learn good moment) rest hnow
    · exact ih hrest _

private theorem mem_learned_installing (env : Env) (o : Outcomes) (correlationId : Str)
    (manifest : Manifest) (files : Files) (good : List Bytes) :
    o.received.flatten ∈
      (installingMoments env o correlationId manifest files).foldl learn good :=
  mem_learned ⟨.verified true, downloaded o files⟩
    (by simp [installingMoments, checkedMoments]) rfl (downloaded_firmware o files) good

private theorem survives_installingMoments (env : Env) (o : Outcomes) (correlationId : Str)
    (manifest : Manifest) {files : Files} {good : List Bytes} {old : Bytes}
    (hgood : old ∈ good) (hinstalled : files .installed = some old)
    (hsaved : backedUp o files .backup = some old) :
    Survives good (installingMoments env o correlationId manifest files) := by
  rw [installingMoments, survives_append]
  constructor
  · apply survives_of_unchanged (.inl rfl) ⟨old, hgood, hinstalled⟩
    have hcopy : Unchanged .installed files
        (copyMoments o.backup .installed .backup (downloaded o files)) :=
      unchanged_copyMoments _ _ (by decide) (downloaded_installed o files)
    simp [unchanged_append, unchanged_cons, unchanged_nil, hcopy,
      unchanged_checkedMoments env o correlationId manifest true files
        (show Path.installed ≠ .firmware by decide)]
  · exact survives_of_unchanged (.inr rfl) ⟨old, subset_learned _ _ hgood, hsaved⟩
      (unchanged_copyMoments _ _ (by decide) rfl)

/-- While a good image is installed, a command keeps one: it stays installed,
another is installed, or a failed rollback leaves it in the backup. -/
theorem survives_of_installed {env : Env} {record : Record} {good : List Bytes}
    (hflow : Flow env record.outcomes record.command record.before record.execution)
    (hgood : Kept good .installed record.before) :
    Survives good record.moments ∧
      (Kept (record.moments.foldl learn good) .installed record.after ∨
        ¬RollbackSafe env record ∧
          Kept (record.moments.foldl learn good) .backup record.after) := by
  obtain ⟨command, o, files, execution⟩ := record
  dsimp only [Record.moments, Record.after] at *
  by_cases hbacked : ∃ manifest, Checked env o command manifest files true ∧
      copySucceeds o.backup .installed (downloaded o files) = true
  · obtain ⟨manifest, hchecked, hbackup⟩ := hbacked
    obtain ⟨hsucceeded, old, hold, hsaved⟩ := copySucceeds_backup hbackup
    obtain ⟨image, himage, hinstalled⟩ := hgood
    obtain rfl := Option.some.inj (hold.symm.trans hinstalled)
    have hinstalling :=
      survives_installingMoments env o command.correlationId manifest himage hold hsaved
    have hkept (moments : List Moment) :
        Kept (moments.foldl learn good) .backup (backedUp o files) :=
      ⟨old, subset_learned _ _ himage, hsaved⟩
    rcases flow_backedUp hflow hchecked hbackup with ⟨hflash, rfl⟩ | ⟨hflash, rfl⟩
    · dsimp only
      rw [survives_append, List.foldl_append]
      refine ⟨⟨hinstalling, survives_of_unchanged (.inr rfl) (hkept _) ?_⟩,
        .inl ⟨o.received.flatten, subset_learned _ _ (mem_learned_installing _ _ _ _ _ _), ?_⟩⟩
      · simp [unchanged_cons, unchanged_nil]
      · simp [flashed_installed, hflash]
    · dsimp only
      rw [List.append_assoc, survives_append]
      refine ⟨⟨hinstalling, survives_of_unchanged (.inr rfl) (hkept _) ?_⟩, ?_⟩
      · have hrollback : Unchanged .backup (backedUp o files)
            (copyMoments o.rollback .backup .installed (flashed o files)) :=
          unchanged_copyMoments _ _ (by decide) (flashed_backup o files)
        simp [unchanged_append, unchanged_cons, unchanged_nil, hrollback]
      · by_cases hrestores : Restores old o.received.flatten o.flash o.rollback
        · refine .inl ⟨old, subset_learned _ _ himage, ?_⟩
          rw [rolledBack_installed hsaved, hold, (restores_iff hflash).mpr hrestores]
        · refine .inr ⟨fun hsafe => hrestores ?_, (hkept _).congr (rolledBack_backup o files)⟩
          exact hsafe old ⟨hold, ⟨manifest, hchecked⟩, hsucceeded, hflash⟩
  · have hframe := flow_unchanged hflow (show Path.installed ≠ .firmware by decide)
      fun manifest hchecked =>
        ⟨Bool.eq_false_iff.mpr fun h => hbacked ⟨manifest, hchecked, h⟩, by simp⟩
    exact ⟨survives_of_unchanged (.inl rfl) hgood hframe.1,
      .inl ((hgood.mono (subset_learned _ _)).congr hframe.2)⟩

private theorem survives_of_backup {env : Env} {record : Record} {good : List Bytes}
    (hflow : Flow env record.outcomes record.command record.before record.execution)
    (hgood : Kept good .backup record.before) (hkeep : ¬OverwritesBackup env record) :
    Survives good record.moments ∧
      Kept (record.moments.foldl learn good) .backup record.after := by
  have hcopy (manifest : Manifest)
      (hchecked : Checked env record.outcomes record.command manifest record.before true) :
      copySucceeds record.outcomes.backup .installed
        (downloaded record.outcomes record.before) = false ∧
      (Path.backup = .backup → record.outcomes.backup = .refused) := by
    have hrefused : record.outcomes.backup = .refused :=
      by_contra fun hne => hkeep ⟨⟨manifest, hchecked⟩, hne⟩
    simp [copySucceeds, hrefused, FileCopy.Outcome.succeeded]
  obtain ⟨hsame, hafter⟩ := flow_unchanged hflow (by decide) hcopy
  exact ⟨survives_of_unchanged (.inr rfl) hgood hsame,
    (hgood.mono (subset_learned _ _)).congr hafter⟩

theorem timeline_cons (record : Record) (rest : List Record) :
    timeline (record :: rest) = record.moments ++ timeline rest := rfl

private theorem run_survives_of_backup (env : Env) {files : Files} {turns : List Turn}
    {good : List Bytes} (hgood : Kept good .backup files)
    (hkeep : ∀ record ∈ run env files turns, ¬OverwritesBackup env record) :
    Survives good (timeline (run env files turns)) := by
  induction turns generalizing files good with
  | nil => trivial
  | cons turn rest ih =>
    cases turn with
    | timeout => exact ih hgood hkeep
    | command cmd o =>
      have hflow := processCommand_flow env o cmd files
      cases hrun : (processCommand env o cmd files).outcome with
      | ok _ =>
        simp only [run_command_ok hrun, List.forall_mem_cons] at hkeep ⊢
        obtain ⟨hmoments, hafter⟩ := survives_of_backup hflow hgood hkeep.1
        rw [timeline_cons, survives_append]
        exact ⟨hmoments, ih hafter hkeep.2⟩
      | error _ =>
        simp only [run_command_error hrun, List.forall_mem_cons] at hkeep ⊢
        rw [timeline_cons, survives_append]
        exact ⟨(survives_of_backup hflow hgood hkeep.1).1, trivial⟩

/-- A good image survives every run in which no command overwrites the backup
after an earlier one that failed to roll back. -/
private theorem run_survives_of_installed (env : Env) {files : Files} {turns : List Turn}
    {good : List Bytes} (hgood : Kept good .installed files)
    (hsafe : (run env files turns).Pairwise fun earlier later =>
      RollbackSafe env earlier ∨ ¬OverwritesBackup env later) :
    Survives good (timeline (run env files turns)) := by
  induction turns generalizing files good with
  | nil => trivial
  | cons turn rest ih =>
    cases turn with
    | timeout => exact ih hgood hsafe
    | command cmd o =>
      have hflow := processCommand_flow env o cmd files
      have hrecord : Survives good (process env files cmd o).moments ∧ _ :=
        survives_of_installed hflow hgood
      obtain ⟨hmoments, hafter⟩ := hrecord
      cases hrun : (processCommand env o cmd files).outcome with
      | ok _ =>
        simp only [run_command_ok hrun, List.pairwise_cons] at hsafe ⊢
        rw [timeline_cons, survives_append]
        refine ⟨hmoments, ?_⟩
        rcases hafter with hinstalled | ⟨hbroken, hbackup⟩
        · exact ih hinstalled hsafe.2
        · exact run_survives_of_backup env hbackup fun record hrecord =>
            (hsafe.1 record hrecord).resolve_left hbroken
      | error _ =>
        rw [run_command_error hrun, timeline_cons, survives_append]
        exact ⟨hmoments, trivial⟩

/-- A good image is at one of the two paths in every state of a run, as long as
no command reaches its backup copy after a rollback that did not restore the
installed image. -/
theorem good_image_survives (env : Env) (files : Files) (turns : List Turn) (image : Bytes)
    (hstart : files .installed = some image)
    (hsafe : (run env files turns).Pairwise fun earlier later =>
      RollbackSafe env earlier ∨ ¬OverwritesBackup env later) :
    Survives [image] (timeline (run env files turns)) :=
  run_survives_of_installed env ⟨image, List.mem_cons_self, hstart⟩ hsafe

def rollbackTurns (rollback : FileCopy.Outcome) : List Turn :=
  [.command sampleCommand { sampleOutcomes with flash := .broken [] 1, rollback },
    .command sampleCommand sampleOutcomes]

theorem good_image_survives_rollback :
    sampleFiles .installed = some (lit "old") ∧
      Survives [lit "old"] (timeline (run sampleEnv sampleFiles (rollbackTurns (.copied [])))) := by
  have hstart : sampleFiles .installed = some (lit "old") := rfl
  refine ⟨hstart, good_image_survives _ _ _ _ hstart (List.pairwise_of_forall_mem_list ?_)⟩
  intro earlier hearlier later _
  left
  intro old _
  have hcopied : earlier.outcomes.rollback = .copied [] := by
    have hmem := mem_commands_of_mem_run hearlier
    simp only [rollbackTurns, commands, List.filterMap_cons, List.filterMap_nil, List.mem_cons,
      List.not_mem_nil, or_false, Prod.mk.injEq] at hmem
    rcases hmem with ⟨_, h⟩ | ⟨_, h⟩
    · rw [h]
    · rw [h, sampleOutcomes]
  rw [hcopied]
  trivial

/-- The rollback breaks as well. The next command then copies the broken image
over the backup, and no good image is left. -/
theorem good_image_lost_after_broken_rollback :
    sampleFiles .installed = some (lit "old") ∧
      ¬Survives [lit "old"]
        (timeline (run sampleEnv sampleFiles (rollbackTurns (.broken [] 0)))) := by
  decide +kernel

end SdvGateway.Gateway.OtaSurvival

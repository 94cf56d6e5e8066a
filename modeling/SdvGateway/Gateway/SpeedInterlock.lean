import SdvGateway.CanLayer.FrameIdentity
import SdvGateway.Gateway.OtaImage
import SdvGateway.Library.Machine

/-! The vehicle's speed and the update of its firmware. Frames reach the decode
loop and commands reach the OTA worker through queues of their own, and the two
threads take their steps in any order. -/
namespace SdvGateway.Gateway.SpeedInterlock
open Common Library CanLayer SignalDecoder OtaAgent OtaFlow OtaStatus OtaImage

structure Job where
  command : Command
  outcomes : Outcomes

inductive Worker where
  | waiting (files : Files)
  | busy (record : Record) (todo : List Moment)
  | ended

structure Env where
  ota : OtaAgent.Env
  fpu : Fpu
  clock : Str → Int
  signals : SignalTable

/-- `bus` and `cloud` is what has not arrived yet. `flashedAt` holds the speed
decoded last at each begin of a flash copy. -/
structure State where
  bus : List CanFrame
  canQueue : List CanFrame
  speed : Option Double
  cloud : List Job
  otaQueue : List Job
  worker : Worker
  flashedAt : List (Option Double)

inductive Action where
  | frameArrives
  | decode
  | commandArrives
  | worker

def frameSpeed (env : Env) (frame : CanFrame) : Option Double :=
  ((decode env.fpu env.clock env.signals frame).reverse.find?
    (·.name = lit "VEHICLE_SPEED")).map (·.value)

def stepFrame (s : State) : Option State :=
  match s.bus with
  | [] => none
  | frame :: rest => some { s with bus := rest, canQueue := s.canQueue ++ [frame] }

def stepDecode (env : Env) (s : State) : Option State :=
  match s.canQueue with
  | [] => none
  | frame :: rest =>
    some { s with canQueue := rest, speed := (frameSpeed env frame).or s.speed }

def stepCommand (s : State) : Option State :=
  match s.cloud with
  | [] => none
  | job :: rest => some { s with cloud := rest, otaQueue := s.otaQueue ++ [job] }

def noted (s : State) (moment : Moment) : List (Option Double) :=
  if moment.event = flashBegins then s.flashedAt ++ [s.speed] else s.flashedAt

def stepWorker (env : Env) (s : State) : Option State :=
  match s.worker with
  | .ended => none
  | .waiting files =>
    match s.otaQueue with
    | [] => none
    | job :: rest =>
      let record := process env.ota files job.command job.outcomes
      some { s with otaQueue := rest, worker := .busy record record.moments }
  | .busy record (moment :: rest) =>
    some { s with worker := .busy record rest, flashedAt := noted s moment }
  | .busy record [] =>
    some { s with
      worker := match record.execution.outcome with
        | .ok _ => .waiting record.after
        | .error _ => .ended }

def machine (env : Env) (bus : List CanFrame) (files : Files) (cloud : List Job) :
    Machine State Action where
  init := ⟨bus, [], none, cloud, [], .waiting files, []⟩
  step s action :=
    match action with
    | .frameArrives => stepFrame s
    | .decode => stepDecode env s
    | .commandArrives => stepCommand s
    | .worker => stepWorker env s

def Moving (speed : Option Double) : Prop := speed.any Double.isPositive = true

instance : DecidablePred Moving := fun speed =>
  inferInstanceAs (Decidable (speed.any Double.isPositive = true))

/-- No flash copy has begun while the vehicle was moving. -/
def Interlocked (s : State) : Prop := ∀ speed ∈ s.flashedAt, ¬Moving speed

instance : DecidablePred Interlocked := fun s =>
  inferInstanceAs (Decidable (∀ speed ∈ s.flashedAt, ¬Moving speed))

def Installs (env : OtaAgent.Env) (record : Record) : Prop :=
  ∃ manifest, Checked env record.outcomes record.command manifest record.before true ∧
    copySucceeds record.outcomes.backup .installed
      (downloaded record.outcomes record.before) = true

def turns (jobs : List Job) : List Turn := jobs.map fun job => .command job.command job.outcomes

theorem installs_iff_flash {env : OtaAgent.Env} {files : Files} {turns : List Turn}
    {record : Record} (hrecord : record ∈ run env files turns) :
    Installs env record ↔ ∃ moment ∈ record.moments, moment.event = flashBegins := by
  have hflow := flow_of_mem_run hrecord
  constructor
  · rintro ⟨manifest, hchecked, hbackup⟩
    obtain ⟨earlier, later, htrace, _⟩ := trace_of_backedUp hflow hchecked hbackup
    refine ⟨⟨flashBegins, backedUp record.outcomes record.before⟩, ?_, rfl⟩
    rw [Record.moments, htrace]
    exact List.mem_append_right _ List.mem_cons_self
  · rintro ⟨moment, hmem, hevent⟩
    exact backedUp_of_flash hflow hmem hevent

inductive Steps (env : Env) (s : State) : State → Prop
  | frameArrived (frame : CanFrame) (rest : List CanFrame) (hbus : s.bus = frame :: rest) :
      Steps env s { s with bus := rest, canQueue := s.canQueue ++ [frame] }
  | decoded (frame : CanFrame) (rest : List CanFrame) (hqueue : s.canQueue = frame :: rest) :
      Steps env s { s with canQueue := rest, speed := (frameSpeed env frame).or s.speed }
  | commandArrived (job : Job) (rest : List Job) (hcloud : s.cloud = job :: rest) :
      Steps env s { s with cloud := rest, otaQueue := s.otaQueue ++ [job] }
  | taken (files : Files) (job : Job) (rest : List Job) (hwaiting : s.worker = .waiting files)
      (hqueue : s.otaQueue = job :: rest) :
      Steps env s { s with
        otaQueue := rest
        worker := .busy (process env.ota files job.command job.outcomes)
          (process env.ota files job.command job.outcomes).moments }
  | reached (record : Record) (moment : Moment) (rest : List Moment)
      (hbusy : s.worker = .busy record (moment :: rest)) :
      Steps env s { s with worker := .busy record rest, flashedAt := noted s moment }
  | finished (record : Record) (hbusy : s.worker = .busy record [])
      (hok : record.execution.outcome = .ok ()) :
      Steps env s { s with worker := .waiting record.after }
  | threw (record : Record) (hbusy : s.worker = .busy record []) :
      Steps env s { s with worker := .ended }

private theorem stepWorker_steps {env : Env} {s s' : State} (h : stepWorker env s = some s') :
    Steps env s s' := by
  unfold stepWorker at h
  split at h
  · contradiction
  · next files hwaiting =>
    split at h
    · contradiction
    · next job rest hqueue =>
      cases h
      exact .taken files job rest hwaiting hqueue
  · next record moment rest hbusy =>
    cases h
    exact .reached record moment rest hbusy
  · next record hbusy =>
    cases h
    cases houtcome : record.execution.outcome with
    | ok _ => exact .finished record hbusy houtcome
    | error e => exact .threw record hbusy

theorem step_steps {env : Env} {bus : List CanFrame} {files : Files} {cloud : List Job}
    {s s' : State} {action : Action}
    (h : (machine env bus files cloud).step s action = some s') : Steps env s s' := by
  cases action with
  | frameArrives =>
    simp only [machine, stepFrame] at h
    split at h
    · contradiction
    · next frame rest hbus =>
      cases h
      exact .frameArrived frame rest hbus
  | decode =>
    simp only [machine, stepDecode] at h
    split at h
    · contradiction
    · next frame rest hqueue =>
      cases h
      exact .decoded frame rest hqueue
  | commandArrives =>
    simp only [machine, stepCommand] at h
    split at h
    · contradiction
    · next job rest hcloud =>
      cases h
      exact .commandArrived job rest hcloud
  | worker => exact stepWorker_steps h

structure Still (env : Env) (s : State) : Prop where
  frames : ∀ frame ∈ s.canQueue ++ s.bus, ¬Moving (frameSpeed env frame)
  speed : ¬Moving s.speed
  interlocked : Interlocked s

theorem still_step {env : Env} {s s' : State} (hstep : Steps env s s') (h : Still env s) :
    Still env s' := by
  obtain ⟨hframes, hspeed, hinterlocked⟩ := h
  cases hstep with
  | frameArrived frame rest hbus =>
    refine ⟨?_, hspeed, hinterlocked⟩
    simpa [hbus] using hframes
  | decoded frame rest hqueue =>
    rw [hqueue] at hframes
    refine ⟨fun later hlater => hframes later (List.mem_cons_of_mem _ hlater), ?_, hinterlocked⟩
    have hslow := hframes frame List.mem_cons_self
    cases hfound : frameSpeed env frame with
    | none => simpa [hfound] using hspeed
    | some value =>
      rw [hfound] at hslow
      simpa [hfound] using hslow
  | reached record moment rest hbusy =>
    refine ⟨hframes, hspeed, ?_⟩
    unfold Interlocked noted at *
    dsimp only
    split
    · rw [List.forall_mem_append, List.forall_mem_singleton]
      exact ⟨hinterlocked, hspeed⟩
    · exact hinterlocked
  | commandArrived | taken | finished | threw => exact ⟨hframes, hspeed, hinterlocked⟩

def Quiet (record : Record) : Prop := ∀ moment ∈ record.moments, moment.event ≠ flashBegins

/-- No command that is waiting, and no moment of the current one, gets to a
flash copy. -/
structure Harmless (env : Env) (s : State) : Prop where
  waiting : ∀ files, s.worker = .waiting files →
    ∀ record ∈ run env.ota files (turns (s.otaQueue ++ s.cloud)), Quiet record
  current : ∀ record todo, s.worker = .busy record todo →
    (∀ moment ∈ todo, moment.event ≠ flashBegins) ∧
      (record.execution.outcome = .ok () →
        ∀ later ∈ run env.ota record.after (turns (s.otaQueue ++ s.cloud)), Quiet later)
  none_begun : s.flashedAt = []

private theorem quiet_first {env : OtaAgent.Env} {files : Files} {job : Job} {rest : List Job}
    (h : ∀ record ∈ run env files (turns (job :: rest)), Quiet record) :
    Quiet (process env files job.command job.outcomes) ∧
      ((process env files job.command job.outcomes).execution.outcome = .ok () →
        ∀ later ∈ run env (process env files job.command job.outcomes).after (turns rest),
          Quiet later) := by
  unfold turns at h
  rw [List.map_cons] at h
  cases hrun : (processCommand env job.outcomes job.command files).outcome with
  | ok _ =>
    rw [run_command_ok hrun, List.forall_mem_cons] at h
    exact ⟨h.1, fun _ => h.2⟩
  | error e =>
    rw [run_command_error hrun, List.forall_mem_singleton] at h
    refine ⟨h, fun hok => ?_⟩
    rw [process, hrun] at hok
    contradiction

theorem harmless_step {env : Env} {s s' : State} (hstep : Steps env s s') (h : Harmless env s) :
    Harmless env s' := by
  obtain ⟨hwaiting, hcurrent, hnone⟩ := h
  cases hstep with
  | frameArrived | decoded => exact ⟨hwaiting, hcurrent, hnone⟩
  | commandArrived job rest hcloud =>
    rw [hcloud] at hwaiting hcurrent
    refine ⟨?_, ?_, hnone⟩
    · simpa using hwaiting
    · simpa using hcurrent
  | taken files job rest hidle hqueue =>
    rw [hqueue] at hwaiting
    refine ⟨nofun, ?_, hnone⟩
    intro record todo hbusy
    cases hbusy
    exact quiet_first (hwaiting files hidle)
  | reached record moment rest hbusy =>
    obtain ⟨hquiet, hlater⟩ := hcurrent record _ hbusy
    rw [List.forall_mem_cons] at hquiet
    refine ⟨nofun, ?_, ?_⟩
    · intro record todo hnow
      cases hnow
      exact ⟨hquiet.2, hlater⟩
    · simpa [noted, hquiet.1] using hnone
  | finished record hbusy hok =>
    refine ⟨?_, ?_, hnone⟩
    · intro files hfiles
      cases hfiles
      exact (hcurrent record [] hbusy).2 hok
    · intro record todo hnow
      cases hnow
  | threw record hbusy =>
    refine ⟨?_, ?_, hnone⟩
    · intro files hfiles
      cases hfiles
    · intro record todo hnow
      cases hnow

private theorem reaches_end (env : Env) {start : List CanFrame} {files : Files} {jobs : List Job}
    (record : Record) (todo : List Moment) (s : State) (hbusy : s.worker = .busy record todo) :
    ∃ s', (machine env start files jobs).Reaches s s' ∧ s'.worker = .busy record [] ∧
      s'.otaQueue = s.otaQueue ∧ s'.speed = s.speed ∧ s.flashedAt ⊆ s'.flashedAt ∧
      ((∃ moment ∈ todo, moment.event = flashBegins) → s.speed ∈ s'.flashedAt) := by
  induction todo generalizing s with
  | nil => exact ⟨s, .refl s, hbusy, rfl, rfl, List.Subset.refl _, by simp⟩
  | cons moment rest ih =>
    have hstep : (machine env start files jobs).step s .worker =
        some { s with worker := .busy record rest, flashedAt := noted s moment } := by
      simp [machine, stepWorker, hbusy]
    obtain ⟨s', hreach, hdone, hqueue, hspeed, hsub, hflash⟩ :=
      ih { s with worker := .busy record rest, flashedAt := noted s moment } rfl
    refine ⟨s', .step .worker hstep hreach, hdone, hqueue, hspeed, ?_, ?_⟩
    · intro speed hmem
      apply hsub
      unfold noted
      split
      · exact List.mem_append_left _ hmem
      · exact hmem
    · rintro ⟨reached, hmem, hevent⟩
      cases List.mem_cons.mp hmem with
      | inl heq =>
        subst heq
        apply hsub
        simp [noted, hevent]
      | inr hmem => exact hflash ⟨reached, hmem, hevent⟩

theorem reaches_flash (env : Env) {start : List CanFrame} {first : Files} {jobs : List Job}
    (queue : List Job) (files : Files) (s : State) (hwaiting : s.worker = .waiting files)
    (hqueue : s.otaQueue = queue)
    (hflash : ∃ record ∈ run env.ota files (turns queue),
      ∃ moment ∈ record.moments, moment.event = flashBegins) :
    ∃ s', (machine env start first jobs).Reaches s s' ∧ s.speed ∈ s'.flashedAt := by
  induction queue generalizing files s with
  | nil => simp [turns, run] at hflash
  | cons job rest ih =>
    obtain ⟨record, hrecord⟩ :
        ∃ record, record = process env.ota files job.command job.outcomes := ⟨_, rfl⟩
    have hstep : (machine env start first jobs).step s .worker =
        some { s with otaQueue := rest, worker := .busy record record.moments } := by
      simp [machine, stepWorker, hwaiting, hqueue, hrecord]
    obtain ⟨s₁, hreach, hbusy, hrest, hspeed, _, hbegins⟩ :=
      @reaches_end env start first jobs record record.moments
        { s with otaQueue := rest, worker := .busy record record.moments } rfl
    by_cases hnow : ∃ moment ∈ record.moments, moment.event = flashBegins
    · exact ⟨s₁, .step .worker hstep hreach, hbegins hnow⟩
    · obtain ⟨later, hmem, hlater⟩ := hflash
      have hne : later ≠ record := by
        rintro rfl
        exact hnow hlater
      unfold turns at hmem
      rw [List.map_cons] at hmem
      cases hrun : (processCommand env.ota job.outcomes job.command files).outcome with
      | error e =>
        rw [run_command_error hrun, List.mem_singleton, ← hrecord] at hmem
        exact absurd hmem hne
      | ok _ =>
        rw [run_command_ok hrun, List.mem_cons, ← hrecord] at hmem
        have hok : record.execution.outcome = .ok () := by rw [hrecord, process, hrun]
        have hnext : (machine env start first jobs).step s₁ .worker =
            some { s₁ with worker := .waiting record.after } := by
          simp [machine, stepWorker, hbusy, hok]
        obtain ⟨s', hreach', hreached⟩ :=
          ih record.after { s₁ with worker := .waiting record.after } rfl hrest
            ⟨later, hmem.resolve_left hne, hlater⟩
        refine ⟨s', .step .worker hstep (hreach.append (.step .worker hnext hreach')), ?_⟩
        rw [← show s₁.speed = s.speed from hspeed]
        exact hreached

theorem reaches_frames (env : Env) {start : List CanFrame} {files : Files} {jobs : List Job}
    (frames canQueue : List CanFrame) (speed : Option Double) (cloud otaQueue : List Job)
    (worker : Worker) (flashedAt : List (Option Double)) :
    (machine env start files jobs).Reaches
      ⟨frames, canQueue, speed, cloud, otaQueue, worker, flashedAt⟩
      ⟨[], canQueue ++ frames, speed, cloud, otaQueue, worker, flashedAt⟩ := by
  induction frames generalizing canQueue with
  | nil =>
    rw [List.append_nil]
    exact .refl _
  | cons frame rest ih =>
    have hrest := ih (canQueue ++ [frame])
    rw [← List.append_cons] at hrest
    exact .step .frameArrives rfl hrest

private theorem reaches_commands (env : Env) {start : List CanFrame} {files : Files}
    {jobs : List Job}
    (bus canQueue : List CanFrame) (speed : Option Double) (cloud otaQueue : List Job)
    (worker : Worker) (flashedAt : List (Option Double)) :
    (machine env start files jobs).Reaches
      ⟨bus, canQueue, speed, cloud, otaQueue, worker, flashedAt⟩
      ⟨bus, canQueue, speed, [], otaQueue ++ cloud, worker, flashedAt⟩ := by
  induction cloud generalizing otaQueue with
  | nil =>
    rw [List.append_nil]
    exact .refl _
  | cons job rest ih =>
    have hrest := ih (otaQueue ++ [job])
    rw [← List.append_cons] at hrest
    exact .step .commandArrives rfl hrest

private theorem reaches_speed (env : Env) {start : List CanFrame} {files : Files} {jobs : List Job}
    (bus earlier later : List CanFrame) (frame : CanFrame) (speed : Option Double)
    (cloud otaQueue : List Job) (worker : Worker) (flashedAt : List (Option Double))
    (hfound : (frameSpeed env frame).isSome = true) :
    (machine env start files jobs).Reaches
      ⟨bus, earlier ++ frame :: later, speed, cloud, otaQueue, worker, flashedAt⟩
      ⟨bus, later, frameSpeed env frame, cloud, otaQueue, worker, flashedAt⟩ := by
  induction earlier generalizing speed with
  | nil =>
    have hnew : (frameSpeed env frame).or speed = frameSpeed env frame :=
      Option.or_of_isSome hfound
    apply Machine.Reaches.step .decode rfl
    rw [hnew]
    exact .refl _
  | cons first rest ih => exact .step .decode rfl (ih _)

/-- No interleaving lets a flash copy begin at speed exactly when there is no
speed above zero on the bus, or no command that gets past the checks. -/
theorem interlocked_iff (env : Env) (bus : List CanFrame) (files : Files) (cloud : List Job) :
    (∀ actions, (machine env bus files cloud).Always Interlocked
        (machine env bus files cloud).init actions) ↔
      (∀ frame ∈ bus, ¬Moving (frameSpeed env frame)) ∨
        ∀ record ∈ run env.ota files (turns cloud), ¬Installs env.ota record := by
  constructor
  · intro hsafe
    by_contra hboth
    push Not at hboth
    obtain ⟨⟨frame, hframe, hmoving⟩, record, hrecord, hinstalls⟩ := hboth
    have hfound : (frameSpeed env frame).isSome = true := by
      cases hspeed : frameSpeed env frame with
      | none => simp [Moving, hspeed] at hmoving
      | some value => rfl
    have hflash := (installs_iff_flash hrecord).mp hinstalls
    obtain ⟨earlier, later, hbus⟩ := List.append_of_mem hframe
    have hframes := @reaches_frames env bus files cloud bus [] none cloud [] (.waiting files) []
    have hcommands :=
      @reaches_commands env bus files cloud [] bus none cloud [] (.waiting files) []
    have hspeed := @reaches_speed env bus files cloud [] earlier later frame none [] cloud
      (.waiting files) [] hfound
    rw [← hbus] at hspeed
    obtain ⟨s', hflashed, hnoted⟩ := reaches_flash env cloud files
      ⟨[], later, frameSpeed env frame, [], cloud, .waiting files, []⟩ rfl rfl
      ⟨record, hrecord, hflash⟩
    have hreach := hframes.append (hcommands.append (hspeed.append hflashed))
    exact Machine.holds_of_reaches hreach hsafe _ hnoted hmoving
  · intro h actions
    cases h with
    | inl hstill =>
      have hinit : Still env (machine env bus files cloud).init := by
        constructor
        · exact hstill
        · simp [machine, Moving]
        · simp [machine, Interlocked]
      exact Machine.always_of_invariant (fun _ _ _ hstep => still_step (step_steps hstep))
        (fun s h => h.interlocked) hinit actions
    | inr hnone =>
      have hinit : Harmless env (machine env bus files cloud).init := by
        constructor
        · intro start hstart record hrecord moment hmoment hevent
          obtain rfl := Worker.waiting.inj hstart
          change record ∈ run env.ota files (turns ([] ++ cloud)) at hrecord
          rw [List.nil_append] at hrecord
          have hinstalls : Installs env.ota record :=
            (installs_iff_flash hrecord).mpr ⟨moment, hmoment, hevent⟩
          exact hnone record hrecord hinstalls
        · intro record todo hbusy
          change Worker.waiting files = .busy record todo at hbusy
          contradiction
        · rfl
      have hholds (s : State) (h : Harmless env s) : Interlocked s := by
        simp [Interlocked, h.none_begun]
      exact Machine.always_of_invariant (fun _ _ _ hstep => harmless_step (step_steps hstep))
        hholds hinit actions

/-- The raw value 5000 in steps of 0.01 is 50 km/h. -/
def drivingFpu : Fpu where
  stod := FrameIdentity.sampleFpu.stod
  ofInt64 n := if n = 5000 then ⟨0x40B3880000000000⟩ else ⟨0⟩
  mulAdd raw _ _ := if raw = ⟨0x40B3880000000000⟩ then ⟨0x4049000000000000⟩ else ⟨0⟩

private theorem full_le : (8 : UInt8) ≤ 8 := by decide

def drivingFrame : CanFrame := ⟨180, 8, #v[0, 0, 0, 0, 0, 0x88, 0x13, 0], full_le⟩

def drivingEnv : Env where
  ota := sampleEnv
  fpu := drivingFpu
  clock := fun _ => 0
  signals := (load drivingFpu (some (FrameIdentity.speedDbc (lit "180")))
    [FrameIdentity.speed] ∅).2

theorem flash_begins_at_speed :
    ¬(machine drivingEnv [drivingFrame] sampleFiles [⟨sampleCommand, sampleOutcomes⟩]).Always
      Interlocked
      (machine drivingEnv [drivingFrame] sampleFiles [⟨sampleCommand, sampleOutcomes⟩]).init
      ([.frameArrives, .decode, .commandArrives] ++ List.replicate 14 .worker) := by
  decide +kernel

end SdvGateway.Gateway.SpeedInterlock

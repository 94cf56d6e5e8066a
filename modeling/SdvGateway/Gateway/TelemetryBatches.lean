import SdvGateway.Gateway.TelemetryPublisher

/-! What the messages of the telemetry publisher carry: each one the last values of
the signals popped since the message before it. -/
namespace SdvGateway.Gateway.TelemetryBatches
open Common Library Batching TelemetryPublisher

def latestValue (name : Str) (batch : List DecodedSignal) : Double :=
  ((latestOf name batch).map (·.value)).getD ⟨0⟩

def latestGear (env : Env) (batch : List DecodedSignal) : Str :=
  ((latestOf gearShift batch).map fun signal => gearCodeToString env signal.value).getD
    (lit "unknown")

/-- Each field is the last value of its signal, or the placeholder. -/
structure Summarizes (env : Env) (batch : List DecodedSignal) (msg : TelemetryMsg) : Prop where
  speed : msg.vehicleSpeedKmh = latestValue vehicleSpeed batch
  rpm : msg.engineRpm = latestValue engineRpm batch
  coolant : msg.engineCoolantTempC = latestValue engineCoolantTemp batch
  battery : msg.batteryVoltageV = latestValue batteryVoltage batch
  gear : msg.gear = latestGear env batch

structure Shows (env : Env) (msg : TelemetryMsg) (signal : DecodedSignal) : Prop where
  speed : signal.name = vehicleSpeed → msg.vehicleSpeedKmh = signal.value
  rpm : signal.name = engineRpm → msg.engineRpm = signal.value
  coolant : signal.name = engineCoolantTemp → msg.engineCoolantTempC = signal.value
  battery : signal.name = batteryVoltage → msg.batteryVoltageV = signal.value
  gear : signal.name = gearShift → msg.gear = gearCodeToString env signal.value

/-- A popped value is in the message of its batch unless a later one replaces it. -/
def Complete (env : Env) (batch : List DecodedSignal) (msg : TelemetryMsg) : Prop :=
  ∀ before signal after, batch = before ++ signal :: after →
    (∀ later ∈ after, later.name ≠ signal.name) → Shows env msg signal

/-- The popped signals are divided into one batch for each message and those that
still wait, which they do for less than five seconds. -/
structure Faithful (env : Env) (start : Int) (records : List Record) : Prop where
  partition : records.filterMap Record.popped = (batches records).flatten ++ waiting records
  summarizes : List.Forall₂ (Summarizes env) (batches records) (messages records)
  complete : List.Forall₂ (Complete env) (batches records) (messages records)
  nonempty : ∀ batch ∈ batches records, batch ≠ []
  prompt : ∀ earlier record later, records = earlier ++ record :: later →
    publishedAt start earlier + 5000000000 ≤ record.turn.timing.now →
      waiting (earlier ++ [record]) = []

theorem numericOr0_collect (env : Env) (start : Int) (batch : List DecodedSignal) {name : Str}
    (hname : name ≠ gearShift) :
    numericOr0 (collect env (.cleared start) batch) name = latestValue name batch := by
  unfold numericOr0 latestValue
  rw [lookup_collect env _ batch hname]
  change ((_ : Option Double).or none).getD _ = _
  rw [Option.or_none]

theorem summarizes_collect (env : Env) (start : Int) (batch : List DecodedSignal)
    (wallClock : Int64) :
    Summarizes env batch
      (telemetryMsg env (collect env (.cleared start) batch) wallClock) := by
  constructor
  · exact numericOr0_collect env start batch (by decide)
  · exact numericOr0_collect env start batch (by decide)
  · exact numericOr0_collect env start batch (by decide)
  · exact numericOr0_collect env start batch (by decide)
  · unfold telemetryMsg latestGear
    dsimp only
    rw [collect_gearReceived, collect_gear]
    cases latestOf gearShift batch <;> rfl

theorem complete_of_summarizes {env : Env} {batch : List DecodedSignal} {msg : TelemetryMsg}
    (h : Summarizes env batch msg) : Complete env batch msg := by
  intro before signal after hbatch hafter
  have hlatest : latestOf signal.name batch = some signal := by
    rw [hbatch]
    exact latest_middle hafter
  have hvalue (name : Str) (hname : signal.name = name) :
      latestValue name batch = signal.value := by
    rw [latestValue, ← hname, hlatest]
    rfl
  constructor
  · exact fun hname => h.speed.trans (hvalue _ hname)
  · exact fun hname => h.rpm.trans (hvalue _ hname)
  · exact fun hname => h.coolant.trans (hvalue _ hname)
  · exact fun hname => h.battery.trans (hvalue _ hname)
  · intro hname
    rw [h.gear, latestGear, ← hname, hlatest]
    rfl

private theorem holdsSomething_iff (env : Env) (start : Int) (batch : List DecodedSignal) :
    (!(collect env (.cleared start) batch).numeric.entries.isEmpty ||
      (collect env (.cleared start) batch).gearReceived) = true ↔ batch ≠ [] := by
  constructor
  · rintro h rfl
    cases h
  · intro hbatch
    obtain ⟨signal, rest, rfl⟩ := List.exists_cons_of_ne_nil hbatch
    rw [Bool.or_eq_true]
    by_cases hgear : signal.name = gearShift
    · right
      have hsome : (latestOf gearShift (signal :: rest)).isSome = true :=
        latest_isSome.mpr ⟨signal, List.mem_cons_self, hgear⟩
      rw [collect_gearReceived, hsome]
      rfl
    · left
      have hsome : (latestOf signal.name (signal :: rest)).isSome = true :=
        latest_isSome.mpr ⟨signal, List.mem_cons_self, rfl⟩
      have hlookup := lookup_collect env (.cleared start) (signal :: rest) hgear
      cases hentries : (collect env (.cleared start) (signal :: rest)).numeric.entries with
      | cons => rfl
      | nil =>
        obtain ⟨last, hlast⟩ := Option.isSome_iff_exists.mp hsome
        rw [hlast, AList.lookup, hentries] at hlookup
        cases hlookup

theorem publishes_collect (env : Env) (start : Int) (batch : List DecodedSignal) (now : Int) :
    publishes (collect env (.cleared start) batch) now = true ↔
      allSignals (collect env (.cleared start) batch) = true ∨
        timerFired (collect env (.cleared start) batch) now = true ∧ batch ≠ [] := by
  unfold publishes
  rw [Bool.or_eq_true, Bool.and_eq_true, holdsSomething_iff]

private theorem nonempty_of_publishes {env : Env} {start now : Int} {batch : List DecodedSignal}
    (h : publishes (collect env (.cleared start) batch) now = true) : batch ≠ [] := by
  rcases (publishes_collect env start batch now).mp h with hall | htimer
  · rintro rfl
    cases hall
  · exact htimer.2

private theorem timerFired_of_elapsed {s : State} {now : Int}
    (h : s.lastPublish + 5000000000 ≤ now) : timerFired s now = true := by
  have hnonneg : 0 ≤ now - s.lastPublish := by omega
  unfold timerFired
  rw [decide_eq_true_eq, Int.tdiv_eq_ediv_of_nonneg hnonneg]
  omega

/-- Every message of a run is the summary of a non-empty batch, and every popped
signal is in the one batch of the next message, which is not delayed beyond a turn
that sees five seconds elapsed. The run takes every turn unless an exception ends it. -/
theorem telemetry_faithful (env : Env) (start : Int) (turns : List Turn) :
    Faithful env start (run env (.cleared start) turns) ∧
      Covers turns (run env (.cleared start) turns) := by
  refine ⟨?_, run_covers env _ turns⟩
  have hsummaries : List.Forall₂ (fun batch msg => batch ≠ [] ∧ Summarizes env batch msg)
      (batches (run env (.cleared start) turns)) (messages (run env (.cleared start) turns)) := by
    apply forall₂_split built_eq
    intro earlier record later msg hsplit hmsg
    have hbuilt := (run_record hsplit).2.2
    rw [hmsg] at hbuilt
    split at hbuilt
    · next hpublishes =>
      rw [Option.some.inj hbuilt]
      constructor
      · exact nonempty_of_publishes hpublishes
      · exact summarizes_collect env _ _ _
    · cases hbuilt
  rw [List.forall₂_and_left] at hsummaries
  constructor
  · exact (split_flatten [] _).symm
  · exact hsummaries.2
  · exact hsummaries.2.imp fun _ _ h => complete_of_summarizes h
  · exact hsummaries.1
  · intro earlier record later hsplit helapsed
    have hbuilt := (run_record hsplit).2.2
    rw [waiting, waitingAfter_snoc, built_eq, hbuilt]
    have htimer : timerFired (checked env start earlier record) record.turn.timing.now = true := by
      apply timerFired_of_elapsed
      rw [checked, collect_lastPublish]
      exact helapsed
    cases hpublishes : publishes (checked env start earlier record) record.turn.timing.now with
    | true => rfl
    | false =>
      have hnone : ¬(collected earlier record ≠ []) := by
        intro hsome
        have h := (publishes_collect env _ _ record.turn.timing.now).mpr (Or.inr ⟨htimer, hsome⟩)
        rw [checked] at hpublishes
        rw [h] at hpublishes
        cases hpublishes
      exact not_not.mp hnone

end SdvGateway.Gateway.TelemetryBatches

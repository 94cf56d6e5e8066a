import Mathlib.Data.Finset.Card
import SdvGateway.CanLayer.SignalDecoder
import SdvGateway.Gateway.TelemetryBatches

/-! What it takes for an early message to be complete. The check counts the names
in the accumulators, so it depends on which names the configuration lets through. -/
namespace SdvGateway.Gateway.EarlyPublish
open Common Library Batching TelemetryPublisher TelemetryBatches
open CanLayer.SignalDecoder (admitted)

def names (batch : List DecodedSignal) : List Str := batch.map (·.name)

@[simp] theorem names_append (batch more : List DecodedSignal) :
    names (batch ++ more) = names batch ++ names more :=
  List.map_append

def numericNames (names : List Str) : Finset Str := (names.filter (· ≠ gearShift)).toFinset

def Received (batch : List DecodedSignal) : Prop := telemetryNames ⊆ names batch

instance : DecidablePred Received := fun batch =>
  inferInstanceAs (Decidable (telemetryNames ⊆ names batch))

/-- The check of a turn recognizes the complete set: a message before the timer has
no placeholder, and the complete set is published at once. -/
structure EarlyMeansComplete (batch : List DecodedSignal) (record : Record) : Prop where
  recognized : record.allSignals = true ↔ Received batch
  early : record.built = true → record.timerFired = false → Received batch
  atOnce : Received batch → record.built = true

/-- Every turn of every run on signals with these names. -/
def AlwaysComplete (env : Env) (allowed : List Str) : Prop :=
  ∀ start turns, (∀ turn ∈ turns, ∀ signal ∈ turn.popped, signal.name ∈ allowed) →
    ∀ earlier record later, run env (.cleared start) turns = earlier ++ record :: later →
      EarlyMeansComplete (collected earlier record) record

theorem mem_numericNames {name : Str} {names : List Str} :
    name ∈ numericNames names ↔ name ∈ names ∧ name ≠ gearShift := by
  simp [numericNames]

theorem numericNames_mono {names names' : List Str} (h : names ⊆ names') :
    numericNames names ⊆ numericNames names' := by
  intro name hname
  rw [mem_numericNames] at hname ⊢
  exact ⟨h hname.1, hname.2⟩

private theorem keys_collect (env : Env) (start : Int) (batch : List DecodedSignal) :
    (collect env (.cleared start) batch).numeric.keys.toFinset = numericNames (names batch) := by
  ext name
  rw [List.mem_toFinset, ← AList.mem_keys, ← AList.lookup_isSome, mem_numericNames]
  by_cases hgear : name = gearShift
  · subst hgear
    rw [lookup_gear_collect]
    simp [State.cleared]
  · rw [lookup_collect env _ batch hgear]
    change ((_ : Option Double).or none).isSome = true ↔ _
    rw [Option.or_none, Option.isSome_map, latestOf, latest_isSome]
    simp [names, hgear]

theorem allSignals_collect (env : Env) (start : Int) (batch : List DecodedSignal) :
    allSignals (collect env (.cleared start) batch) = true ↔
      (numericNames (names batch)).card = 4 ∧ gearShift ∈ names batch := by
  have hcount : (collect env (.cleared start) batch).numeric.entries.length =
      (numericNames (names batch)).card := by
    rw [← keys_collect env start, List.toFinset_card_of_nodup (AList.keys_nodup _)]
    exact (List.length_map _).symm
  have hgear : (collect env (.cleared start) batch).gearReceived = true ↔
      gearShift ∈ names batch := by
    rw [collect_gearReceived, State.cleared, Bool.or_false, latestOf, latest_isSome]
    simp [names]
  rw [allSignals, Bool.and_eq_true, decide_eq_true_eq, hcount, hgear]

theorem received_iff {batch : List DecodedSignal} :
    Received batch ↔
      numericNames telemetryNames ⊆ numericNames (names batch) ∧ gearShift ∈ names batch := by
  constructor
  · intro h
    exact ⟨numericNames_mono h, h (by decide)⟩
  · rintro ⟨hnumeric, hgear⟩ name hname
    by_cases hsame : name = gearShift
    · exact hsame ▸ hgear
    · exact (mem_numericNames.mp (hnumeric (mem_numericNames.mpr ⟨hname, hsame⟩))).1

theorem card_telemetryNames : (numericNames telemetryNames).card = 4 := by decide

/-- No signal of the five is configured away, or nothing else is configured: the
names that are counted are the right ones. -/
theorem allSignals_iff_received {allowed : List Str}
    (h : gearShift ∉ allowed ∨ (numericNames allowed).card ≤ 3 ∨ allowed ⊆ telemetryNames)
    (env : Env) (start : Int) {batch : List DecodedSignal} (hbatch : names batch ⊆ allowed) :
    allSignals (collect env (.cleared start) batch) = true ↔ Received batch := by
  rw [allSignals_collect, received_iff]
  apply and_congr_left
  intro hgear
  have hfour := card_telemetryNames
  have hsubset := numericNames_mono hbatch
  have hcard := Finset.card_le_card hsubset
  rcases h with hmissing | hfew | honly
  · exact absurd (hbatch hgear) hmissing
  · constructor
    · intro hcount
      omega
    · intro hall
      have hle := Finset.card_le_card hall
      omega
  · have hwithin : numericNames (names batch) ⊆ numericNames telemetryNames :=
      hsubset.trans (numericNames_mono honly)
    constructor
    · intro hcount
      have heq := Finset.eq_of_subset_of_card_le hwithin (by omega)
      exact heq.ge
    · intro hall
      rw [hwithin.antisymm hall, hfour]

theorem earlyMeansComplete_of_exact {env : Env} {start : Int} {turns : List Turn}
    {earlier later : List Record} {record : Record}
    (hsplit : run env (.cleared start) turns = earlier ++ record :: later)
    (hexact : allSignals (checked env start earlier record) = true ↔
      Received (collected earlier record)) :
    EarlyMeansComplete (collected earlier record) record := by
  obtain ⟨hall, htimer, hmsg⟩ := run_record hsplit
  have hbuilt : record.built =
      publishes (checked env start earlier record) record.turn.timing.now := by
    rw [built_eq, hmsg]
    cases publishes (checked env start earlier record) record.turn.timing.now <;> rfl
  have hpublishes := publishes_collect env (publishedAt start earlier)
    (collected earlier record) record.turn.timing.now
  change publishes (checked env start earlier record) _ = true ↔
    allSignals (checked env start earlier record) = true ∨
      timerFired (checked env start earlier record) _ = true ∧ _ at hpublishes
  rw [← hbuilt, ← htimer] at hpublishes
  constructor
  · rw [hall]
    exact hexact
  · intro hmessage hearly
    rcases hpublishes.mp hmessage with hcount | hlate
    · exact hexact.mp hcount
    · rw [hearly] at hlate
      cases hlate.1
  · intro hreceived
    exact hpublishes.mpr (Or.inl (hexact.mpr hreceived))

def named (name : Str) : DecodedSignal := ⟨name, ⟨0⟩, [], 0⟩

def promptTurn (start : Int) (name : Str) : Turn := ⟨some (named name), ⟨start, 0, true, start⟩⟩

private theorem run_keep {env : Env} {s after : State} {turn : Turn}
    (hafter : afterPop env s turn = after)
    (h : publishes after turn.timing.now = false) (rest : List Turn) :
    run env s (turn :: rest) =
      ⟨turn, allSignals after, timerFired after turn.timing.now, none⟩ :: run env after rest := by
  rw [run, iterate_keep hafter h]

private theorem run_quiet (env : Env) (start : Int) {more : List Str} (hmore : gearShift ∉ more)
    {batch : List DecodedSignal} (hbatch : gearShift ∉ names batch) (rest : List Turn) :
    ∃ records,
      run env (collect env (.cleared start) batch) (more.map (promptTurn start) ++ rest) =
        records ++ run env (collect env (.cleared start) (batch ++ more.map named)) rest ∧
      (split Record.built Record.popped batch records).2 = batch ++ more.map named := by
  induction more generalizing batch with
  | nil => exact ⟨[], by simp, by simp [split]⟩
  | cons name more ih =>
    rw [List.mem_cons, not_or] at hmore
    have hnext : gearShift ∉ names (batch ++ [named name]) := by
      simpa [names, named] using ⟨by simpa [names] using hbatch, hmore.1⟩
    have hafter : afterPop env (collect env (.cleared start) batch) (promptTurn start name) =
        collect env (.cleared start) (batch ++ [named name]) :=
      afterPop_collect env _ batch (promptTurn start name)
    have hcount : allSignals (collect env (.cleared start) (batch ++ [named name])) = false := by
      rw [Bool.eq_false_iff, ne_eq, allSignals_collect]
      exact fun h => hnext h.2
    have htimer :
        timerFired (collect env (.cleared start) (batch ++ [named name])) start = false := by
      rw [timerFired, collect_lastPublish, State.cleared, Int.sub_self]
      rfl
    have hkeep : publishes (collect env (.cleared start) (batch ++ [named name]))
        (promptTurn start name).timing.now = false := by
      change publishes (collect env (.cleared start) (batch ++ [named name])) start = false
      rw [publishes, hcount, htimer]
      rfl
    obtain ⟨records, hrun, hsplit⟩ := ih hmore.2 hnext
    rw [List.append_assoc] at hrun hsplit
    rw [List.map_cons, List.cons_append, run_keep hafter hkeep, hrun]
    refine ⟨_ :: records, rfl, ?_⟩
    rw [split_keep rfl]
    exact hsplit

theorem run_head (env : Env) (s : State) (turn : Turn) (rest : List Turn) :
    ∃ record later, run env s (turn :: rest) = record :: later ∧ record.turn = turn := by
  unfold run
  have hturn := (iterate_check env s turn).1
  cases hstep : iterate env s turn with
  | mk record after =>
    rw [hstep] at hturn
    cases after with
    | none => exact ⟨record, [], rfl, hturn⟩
    | some after => exact ⟨record, run env after rest, rfl, hturn⟩

private theorem run_gear_last (env : Env) {more : List Str} (hmore : gearShift ∉ more) :
    ∃ earlier record later,
      run env (.cleared 0) ((more ++ [gearShift]).map (promptTurn 0)) = earlier ++ record :: later ∧
        collected earlier record = (more ++ [gearShift]).map named := by
  obtain ⟨records, hrun, hwaiting⟩ := run_quiet env 0 hmore
    (show gearShift ∉ names [] from List.not_mem_nil) [promptTurn 0 gearShift]
  obtain ⟨record, later, hlast, hturn⟩ := run_head env
    (collect env (.cleared 0) ([] ++ more.map named)) (promptTurn 0 gearShift) []
  rw [hlast] at hrun
  refine ⟨records, record, later, ?_, ?_⟩
  · rw [List.map_append]
    exact hrun
  · unfold collected waiting waitingAfter
    rw [hwaiting, Record.popped, hturn, List.map_append]
    rfl

/-- Four wrong names and the gear look like the complete set. -/
private theorem incomplete_of_fifth_name {allowed : List Str} (hgear : gearShift ∈ allowed)
    (hmany : 4 ≤ (numericNames allowed).card) {extra : Str} (hextra : extra ∈ allowed)
    (hwrong : extra ∉ telemetryNames) (env : Env) : ¬AlwaysComplete env allowed := by
  have hnumeric : extra ∈ numericNames allowed := by
    apply mem_numericNames.mpr
    refine ⟨hextra, ?_⟩
    rintro rfl
    exact hwrong (by decide)
  obtain ⟨four, hsingle, hfour, hcard⟩ :=
    Finset.exists_subsuperset_card_eq (Finset.singleton_subset_iff.mpr hnumeric) (by simp) hmany
  have hmem (name : Str) (hname : name ∈ four) : name ∈ allowed ∧ name ≠ gearShift :=
    mem_numericNames.mp (hfour hname)
  have hquiet : gearShift ∉ four.toList := by
    intro h
    exact (hmem gearShift (Finset.mem_toList.mp h)).2 rfl
  obtain ⟨records, record, later, hrun, hcollected⟩ := run_gear_last env hquiet
  have hnames : names (collected records record) = four.toList ++ [gearShift] := by
    rw [hcollected]
    simp [names, named, Function.comp_def]
  have hfour' : numericNames (names (collected records record)) = four := by
    ext name
    rw [mem_numericNames, hnames, List.mem_append, Finset.mem_toList, List.mem_singleton]
    constructor
    · rintro ⟨hname | hname, hother⟩
      · exact hname
      · exact absurd hname hother
    · intro hname
      exact ⟨Or.inl hname, (hmem name hname).2⟩
  intro hcomplete
  have hallowed : ∀ turn ∈ (four.toList ++ [gearShift]).map (promptTurn 0),
      ∀ signal ∈ turn.popped, signal.name ∈ allowed := by
    rw [List.forall_mem_map, List.forall_mem_append, List.forall_mem_singleton]
    constructor
    · intro name hname signal hsignal
      cases hsignal
      exact (hmem name (Finset.mem_toList.mp hname)).1
    · intro signal hsignal
      cases hsignal
      exact hgear
  have hsound := hcomplete 0 _ hallowed records record later hrun
  have hcounted : record.allSignals = true := by
    rw [(run_record hrun).1, checked, allSignals_collect, hfour', hnames]
    exact ⟨hcard, by simp⟩
  have hreceived := (received_iff.mp (hsound.recognized.mp hcounted)).1
  rw [hfour'] at hreceived
  have heq := Finset.eq_of_subset_of_card_le hreceived (by rw [hcard, card_telemetryNames])
  rw [← heq] at hsingle
  exact hwrong (mem_numericNames.mp (Finset.singleton_subset_iff.mp hsingle)).1

/-- A configuration has only complete early messages exactly when it lets through no
gear, too few other names to be counted as complete, or none but the five. -/
theorem early_complete_iff (env : Env) (signalNames : List Str) :
    AlwaysComplete env (admitted signalNames) ↔
      gearShift ∉ signalNames ∨ (numericNames (admitted signalNames)).card ≤ 3 ∨
        admitted signalNames ⊆ telemetryNames := by
  have hgear : gearShift ∈ admitted signalNames ↔ gearShift ∈ signalNames := by
    rw [admitted, List.mem_filter, and_iff_left (by decide)]
  rw [← hgear]
  constructor
  · intro hcomplete
    by_contra hnone
    push Not at hnone
    obtain ⟨hshift, hmany, hother⟩ := hnone
    have hfifth : ∃ extra ∈ admitted signalNames, extra ∉ telemetryNames := by
      by_contra hall
      push Not at hall
      exact hother hall
    obtain ⟨extra, hextra, hwrong⟩ := hfifth
    exact incomplete_of_fifth_name hshift hmany hextra hwrong env hcomplete
  · intro hconfigured start turns hturns earlier record later hsplit
    apply earlyMeansComplete_of_exact hsplit
    apply allSignals_iff_received hconfigured
    intro name hname
    obtain ⟨signal, hsignal, rfl⟩ := List.mem_map.mp hname
    obtain ⟨turn, hturn, hpopped⟩ := collected_popped hsplit hsignal
    exact hturns turn hturn signal hpopped

def sampleEnv : Env where
  json := ⟨fun _ => .error .parseError, fun _ => lit "0.0"⟩
  toInt _ := 0
  uin := lit "2T1BURHE0JC123456"

def oilTemp : Str := lit "ENGINE_OIL_TEMP"

def sixNames : List Str := telemetryNames ++ [oilTemp]

def oilTurns : List Turn :=
  [vehicleSpeed, engineRpm, engineCoolantTemp, oilTemp, gearShift].map (promptTurn 0)

theorem early_without_battery : ¬AlwaysComplete sampleEnv (admitted sixNames) := by
  intro hcomplete
  have hallowed : ∀ turn ∈ oilTurns, ∀ signal ∈ turn.popped,
      signal.name ∈ admitted sixNames := by
    decide +kernel
  have hsound := hcomplete 0 oilTurns hallowed [_, _, _, _] _ [] rfl
  have hreceived := hsound.recognized.mp (by decide +kernel)
  exact absurd hreceived (by decide +kernel)

/-- With the six names present the count is five, and nothing is published early. -/
example :
    let turns := [vehicleSpeed, engineRpm, engineCoolantTemp, batteryVoltage, oilTemp, gearShift]
    (run sampleEnv (.cleared 0) (turns.map (promptTurn 0))).map (·.built) =
      List.replicate 6 false := by
  decide +kernel

end SdvGateway.Gateway.EarlyPublish

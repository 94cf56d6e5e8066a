import SdvGateway.Common.Timestamp
import SdvGateway.Library.Batching

/-! The telemetry publisher: it keeps the last value of each signal and builds a
message from them when all are there or the timer has expired. The conversion of
a `double` to `int` is a parameter. -/
namespace SdvGateway.Gateway.TelemetryPublisher
open Common Library Batching

def vehicleSpeed : Str := lit "VEHICLE_SPEED"
def engineRpm : Str := lit "ENGINE_RPM"
def engineCoolantTemp : Str := lit "ENGINE_COOLANT_TEMP"
def batteryVoltage : Str := lit "BATTERY_VOLTAGE"
def gearShift : Str := lit "GEAR_SHIFT"

def telemetryNames : List Str :=
  [vehicleSpeed, engineRpm, engineCoolantTemp, batteryVoltage, gearShift]

/-- `toInt` is `static_cast<int>`. -/
structure Env where
  json : JsonText
  toInt : Double → Int
  uin : Str

def gearCodeToString (env : Env) (raw : Double) : Str :=
  match env.toInt raw with
  | 0 => lit "P"
  | 1 => lit "R"
  | 2 => lit "N"
  | 3 => lit "D"
  | _ => lit "unknown"

/-- `lastPublish` is a reading of the steady clock, in nanoseconds. -/
structure State where
  numeric : AList fun _ : Str => Double
  gear : Str
  gearReceived : Bool
  lastPublish : Int

def State.cleared (lastPublish : Int) : State := ⟨∅, [], false, lastPublish⟩

def accumulate (env : Env) (s : State) (signal : DecodedSignal) : State :=
  if signal.name = gearShift then
    { s with gear := gearCodeToString env signal.value, gearReceived := true }
  else { s with numeric := s.numeric.insert signal.name signal.value }

def allSignals (s : State) : Bool := s.numeric.entries.length = 4 && s.gearReceived

/-- `duration_cast<seconds>` truncates toward zero. -/
def timerFired (s : State) (now : Int) : Bool := 5 ≤ (now - s.lastPublish).tdiv 1000000000

def publishes (s : State) (now : Int) : Bool :=
  allSignals s || (timerFired s now && (!s.numeric.entries.isEmpty || s.gearReceived))

def numericOr0 (s : State) (name : Str) : Double := (s.numeric.lookup name).getD ⟨0⟩

def telemetryMsg (env : Env) (s : State) (wallClock : Int64) : TelemetryMsg where
  uin := env.uin
  vehicleSpeedKmh := numericOr0 s vehicleSpeed
  engineRpm := numericOr0 s engineRpm
  engineCoolantTempC := numericOr0 s engineCoolantTemp
  batteryVoltageV := numericOr0 s batteryVoltage
  gear := if s.gearReceived then s.gear else lit "unknown"
  timestamp := wallClock
  fromBuffer := false

def telemetryJson (msg : TelemetryMsg) : Json :=
  .object [
    (lit "battery_voltage_v", .float msg.batteryVoltageV),
    (lit "engine_coolant_temp_c", .float msg.engineCoolantTempC),
    (lit "engine_rpm", .float msg.engineRpm),
    (lit "from_buffer", .boolean msg.fromBuffer),
    (lit "gear", .string msg.gear),
    (lit "timestamp", .string (iso8601Utc msg.timestamp.toInt)),
    (lit "uin", .string msg.uin),
    (lit "vehicle_speed_kmh", .float msg.vehicleSpeedKmh)]

def telemetryTopic (uin : Str) : Str := lit "sdv/telemetry/from/uin/" ++ uin

/-- The clocks and the broker's answer in one turn: `now` is read at the check,
`wallClock` and `restart` at the start and at the end of a publish. -/
structure Timing where
  now : Int
  wallClock : Int64
  published : Bool
  restart : Int

/-- One turn of `while (running_)`: `pop_for` times out or yields a signal. -/
structure Turn where
  popped : Option DecodedSignal
  timing : Timing

structure Publication where
  msg : TelemetryMsg
  sent : Except JsonError (Message × Bool)

/-- A failed publish is caught and the accumulators are reset all the same. An exception
of `dump` leaves the thread. -/
def publishNow (env : Env) (s : State) (timing : Timing) : Publication × Option State :=
  let msg := telemetryMsg env s timing.wallClock
  match env.json.dump (telemetryJson msg) with
  | .error e => (⟨msg, .error e⟩, none)
  | .ok payload =>
    (⟨msg, .ok (⟨telemetryTopic env.uin, payload⟩, timing.published)⟩,
      some (.cleared timing.restart))

structure Record where
  turn : Turn
  allSignals : Bool
  timerFired : Bool
  publication : Option Publication

def afterPop (env : Env) (s : State) (turn : Turn) : State :=
  match turn.popped with
  | none => s
  | some signal => accumulate env s signal

def iterate (env : Env) (s : State) (turn : Turn) : Record × Option State :=
  let s := afterPop env s turn
  if publishes s turn.timing.now then
    let (publication, after) := publishNow env s turn.timing
    (⟨turn, allSignals s, timerFired s turn.timing.now, some publication⟩, after)
  else (⟨turn, allSignals s, timerFired s turn.timing.now, none⟩, some s)

def run (env : Env) : State → List Turn → List Record
  | _, [] => []
  | s, turn :: rest =>
    match iterate env s turn with
    | (record, none) => [record]
    | (record, some after) => record :: run env after rest

def Record.built (record : Record) : Bool := record.publication.isSome

def Record.popped (record : Record) : Option DecodedSignal := record.turn.popped

def Record.escaped (record : Record) : Bool :=
  match record.publication with
  | some ⟨_, .error _⟩ => true
  | _ => false

/-- The records are those of the given turns, up to an exception that left the thread. -/
structure Covers (turns : List Turn) (records : List Record) : Prop where
  given : records.map (·.turn) <+: turns
  all : (∀ record ∈ records, record.escaped = false) → records.map (·.turn) = turns
  last : ∀ earlier record later, records = earlier ++ record :: later →
    record.escaped = true → later = []

def messages (records : List Record) : List TelemetryMsg :=
  records.filterMap fun record => record.publication.map (·.msg)

def batches (records : List Record) : List (List DecodedSignal) :=
  (split Record.built Record.popped [] records).1

def waiting (records : List Record) : List DecodedSignal :=
  waitingAfter Record.built Record.popped records

def publishedAt (start : Int) (records : List Record) : Int :=
  records.foldl (fun last record => if record.built then record.turn.timing.restart else last) start

theorem publishedAt_cons (start : Int) (first : Record) (rest : List Record) :
    publishedAt start (first :: rest) =
      publishedAt (if first.built then first.turn.timing.restart else start) rest :=
  rfl

def collect (env : Env) (s : State) (signals : List DecodedSignal) : State :=
  signals.foldl (accumulate env) s

def latestOf (name : Str) (signals : List DecodedSignal) : Option DecodedSignal :=
  latest DecodedSignal.name name signals

theorem latestOf_cons (name : Str) (signal : DecodedSignal) (rest : List DecodedSignal) :
    latestOf name (signal :: rest) =
      (latestOf name rest).or (if signal.name = name then some signal else none) :=
  latest_cons name signal rest

theorem accumulate_gear (env : Env) (s : State) {signal : DecodedSignal}
    (h : signal.name = gearShift) :
    accumulate env s signal =
      { s with gear := gearCodeToString env signal.value, gearReceived := true } := by
  rw [accumulate, if_pos h]

theorem accumulate_numeric (env : Env) (s : State) {signal : DecodedSignal}
    (h : signal.name ≠ gearShift) :
    accumulate env s signal =
      { s with numeric := s.numeric.insert signal.name signal.value } := by
  rw [accumulate, if_neg h]

theorem lookup_collect (env : Env) (s : State) (signals : List DecodedSignal) {name : Str}
    (hname : name ≠ gearShift) :
    (collect env s signals).numeric.lookup name =
      ((latestOf name signals).map (·.value)).or (s.numeric.lookup name) := by
  induction signals generalizing s with
  | nil => rfl
  | cons signal rest ih =>
    change (collect env (accumulate env s signal) rest).numeric.lookup name = _
    rw [ih, latestOf_cons]
    by_cases hgear : signal.name = gearShift
    · have hother : signal.name ≠ name := fun h => hname (h ▸ hgear)
      rw [accumulate_gear env s hgear, if_neg hother, Option.or_none]
    · rw [accumulate_numeric env s hgear]
      by_cases hsame : signal.name = name
      · subst hsame
        rw [AList.lookup_insert, if_pos rfl]
        cases latestOf signal.name rest <;> rfl
      · have hne : name ≠ signal.name := fun h => hsame h.symm
        rw [AList.lookup_insert_ne hne, if_neg hsame, Option.or_none]

theorem lookup_gear_collect (env : Env) (s : State) (signals : List DecodedSignal) :
    (collect env s signals).numeric.lookup gearShift = s.numeric.lookup gearShift := by
  induction signals generalizing s with
  | nil => rfl
  | cons signal rest ih =>
    change (collect env (accumulate env s signal) rest).numeric.lookup gearShift = _
    rw [ih]
    by_cases hgear : signal.name = gearShift
    · rw [accumulate_gear env s hgear]
    · have hne : gearShift ≠ signal.name := fun h => hgear h.symm
      rw [accumulate_numeric env s hgear, AList.lookup_insert_ne hne]

theorem collect_gear (env : Env) (s : State) (signals : List DecodedSignal) :
    (collect env s signals).gear =
      ((latestOf gearShift signals).map fun signal => gearCodeToString env signal.value).getD
        s.gear := by
  induction signals generalizing s with
  | nil => rfl
  | cons signal rest ih =>
    change (collect env (accumulate env s signal) rest).gear = _
    rw [ih, latestOf_cons]
    by_cases hgear : signal.name = gearShift
    · rw [accumulate_gear env s hgear, if_pos hgear]
      cases latestOf gearShift rest <;> rfl
    · rw [accumulate_numeric env s hgear, if_neg hgear, Option.or_none]

theorem collect_gearReceived (env : Env) (s : State) (signals : List DecodedSignal) :
    (collect env s signals).gearReceived =
      ((latestOf gearShift signals).isSome || s.gearReceived) := by
  induction signals generalizing s with
  | nil => rfl
  | cons signal rest ih =>
    change (collect env (accumulate env s signal) rest).gearReceived = _
    rw [ih, latestOf_cons]
    by_cases hgear : signal.name = gearShift
    · rw [accumulate_gear env s hgear, if_pos hgear]
      cases latestOf gearShift rest <;> rfl
    · rw [accumulate_numeric env s hgear, if_neg hgear, Option.or_none]

theorem collect_lastPublish (env : Env) (s : State) (signals : List DecodedSignal) :
    (collect env s signals).lastPublish = s.lastPublish := by
  induction signals generalizing s with
  | nil => rfl
  | cons signal rest ih =>
    change (collect env (accumulate env s signal) rest).lastPublish = _
    rw [ih]
    by_cases hgear : signal.name = gearShift
    · rw [accumulate_gear env s hgear]
    · rw [accumulate_numeric env s hgear]

theorem afterPop_collect (env : Env) (s : State) (signals : List DecodedSignal) (turn : Turn) :
    afterPop env (collect env s signals) turn =
      collect env s (signals ++ turn.popped.toList) := by
  unfold afterPop collect
  rw [List.foldl_append]
  cases turn.popped <;> rfl

theorem iterate_keep {env : Env} {s checked : State} {turn : Turn}
    (hpop : afterPop env s turn = checked) (h : publishes checked turn.timing.now = false) :
    iterate env s turn =
      (⟨turn, allSignals checked, timerFired checked turn.timing.now, none⟩, some checked) := by
  unfold iterate
  dsimp only
  rw [hpop, h]
  rfl

theorem iterate_publish {env : Env} {s checked : State} {turn : Turn}
    (hpop : afterPop env s turn = checked) (h : publishes checked turn.timing.now = true) :
    iterate env s turn =
      (⟨turn, allSignals checked, timerFired checked turn.timing.now,
          some (publishNow env checked turn.timing).1⟩,
        (publishNow env checked turn.timing).2) := by
  unfold iterate
  dsimp only
  rw [hpop, h]
  rfl

theorem iterate_check (env : Env) (s : State) (turn : Turn) :
    (iterate env s turn).1.turn = turn ∧
      (iterate env s turn).1.allSignals = allSignals (afterPop env s turn) ∧
      (iterate env s turn).1.timerFired =
        timerFired (afterPop env s turn) turn.timing.now := by
  cases hpublishes : publishes (afterPop env s turn) turn.timing.now with
  | true =>
    rw [iterate_publish rfl hpublishes]
    exact ⟨rfl, rfl, rfl⟩
  | false =>
    rw [iterate_keep rfl hpublishes]
    exact ⟨rfl, rfl, rfl⟩

theorem publishNow_msg (env : Env) (s : State) (timing : Timing) :
    (publishNow env s timing).1.msg = telemetryMsg env s timing.wallClock := by
  unfold publishNow
  dsimp only
  split <;> rfl

theorem publishNow_sent {env : Env} {s : State} {timing : Timing} {payload : Str}
    (h : env.json.dump (telemetryJson (telemetryMsg env s timing.wallClock)) = .ok payload) :
    (publishNow env s timing).1.sent =
      .ok (⟨telemetryTopic env.uin, payload⟩, timing.published) := by
  unfold publishNow
  simp only [h]

theorem publishNow_after {env : Env} {s after : State} {timing : Timing}
    (h : (publishNow env s timing).2 = some after) : after = .cleared timing.restart := by
  unfold publishNow at h
  dsimp only at h
  split at h
  · cases h
  · exact (Option.some.inj h).symm

theorem iterate_msg (env : Env) (s : State) (turn : Turn) :
    (iterate env s turn).1.publication.map (·.msg) =
      if publishes (afterPop env s turn) turn.timing.now then
        some (telemetryMsg env (afterPop env s turn) turn.timing.wallClock)
      else none := by
  cases hpublishes : publishes (afterPop env s turn) turn.timing.now with
  | true =>
    rw [iterate_publish rfl hpublishes, if_pos rfl]
    exact congrArg some (publishNow_msg _ _ _)
  | false =>
    rw [iterate_keep rfl hpublishes]
    rfl

theorem iterate_built (env : Env) (s : State) (turn : Turn) :
    (iterate env s turn).1.built = publishes (afterPop env s turn) turn.timing.now := by
  cases hpublishes : publishes (afterPop env s turn) turn.timing.now with
  | true =>
    rw [iterate_publish rfl hpublishes]
    rfl
  | false =>
    rw [iterate_keep rfl hpublishes]
    rfl

theorem iterate_after {env : Env} {s after : State} {turn : Turn}
    (h : (iterate env s turn).2 = some after) :
    after = if publishes (afterPop env s turn) turn.timing.now then
        .cleared turn.timing.restart
      else afterPop env s turn := by
  cases hpublishes : publishes (afterPop env s turn) turn.timing.now with
  | true =>
    rw [iterate_publish rfl hpublishes] at h
    rw [if_pos rfl]
    exact publishNow_after h
  | false =>
    rw [iterate_keep rfl hpublishes] at h
    exact (Option.some.inj h).symm

theorem run_split (env : Env) {turns : List Turn} {earlier later : List Record}
    {record : Record} {start : Int} {signals : List DecodedSignal}
    (h : run env (collect env (.cleared start) signals) turns = earlier ++ record :: later) :
    record = (iterate env (collect env (.cleared (publishedAt start earlier))
      (split Record.built Record.popped signals earlier).2) record.turn).1 := by
  induction turns generalizing start signals earlier with
  | nil => simp [run] at h
  | cons turn rest ih =>
    unfold run at h
    have hturn := (iterate_check env (collect env (.cleared start) signals) turn).1
    have hbuilt := iterate_built env (collect env (.cleared start) signals) turn
    rw [afterPop_collect] at hbuilt
    cases hstep : iterate env (collect env (.cleared start) signals) turn with
    | mk first after =>
      rw [hstep] at h hturn hbuilt
      dsimp only at hturn hbuilt
      cases earlier with
      | nil =>
        have hfirst : first = record := by
          cases after <;> exact (List.cons.inj h).1
        subst hfirst
        rw [hturn]
        change first = (iterate env (collect env (.cleared start) signals) turn).1
        rw [hstep]
      | cons head earlier =>
        cases after with
        | none => simp at h
        | some after =>
          obtain ⟨rfl, hrest⟩ := List.cons.inj h
          change run env after rest = earlier ++ record :: later at hrest
          have hafter := iterate_after (congrArg Prod.snd hstep)
          rw [afterPop_collect, ← hbuilt] at hafter
          rw [hafter] at hrest
          rw [publishedAt_cons]
          cases hcut : first.built with
          | true =>
            rw [hcut, if_pos rfl] at hrest
            rw [split_cut hcut, if_pos rfl, hturn]
            exact ih hrest
          | false =>
            rw [hcut, if_neg (by simp)] at hrest
            rw [split_keep hcut, if_neg (by simp), Record.popped, hturn]
            exact ih hrest

def collected (earlier : List Record) (record : Record) : List DecodedSignal :=
  waiting earlier ++ record.popped.toList

def checked (env : Env) (start : Int) (earlier : List Record) (record : Record) : State :=
  collect env (.cleared (publishedAt start earlier)) (collected earlier record)

theorem run_record {env : Env} {start : Int} {turns : List Turn} {earlier later : List Record}
    {record : Record} (h : run env (.cleared start) turns = earlier ++ record :: later) :
    record.allSignals = allSignals (checked env start earlier record) ∧
      record.timerFired =
        timerFired (checked env start earlier record) record.turn.timing.now ∧
      record.publication.map (·.msg) =
        if publishes (checked env start earlier record) record.turn.timing.now then
          some (telemetryMsg env (checked env start earlier record) record.turn.timing.wallClock)
        else none := by
  change run env (collect env (.cleared start) []) turns = _ at h
  have hrecord := run_split env h
  change record = (iterate env (collect env _ (waiting earlier)) record.turn).1 at hrecord
  have hcheck := iterate_check env
    (collect env (.cleared (publishedAt start earlier)) (waiting earlier)) record.turn
  have hmsg := iterate_msg env
    (collect env (.cleared (publishedAt start earlier)) (waiting earlier)) record.turn
  rw [← hrecord, afterPop_collect] at hcheck hmsg
  exact ⟨hcheck.2.1, hcheck.2.2, hmsg⟩

theorem built_eq (record : Record) :
    record.built = (record.publication.map (·.msg)).isSome := by
  rw [Option.isSome_map]
  rfl

private theorem iterate_escaped (env : Env) (s : State) (turn : Turn) :
    (iterate env s turn).1.escaped = (iterate env s turn).2.isNone := by
  cases hpublishes : publishes (afterPop env s turn) turn.timing.now with
  | true =>
    rw [iterate_publish rfl hpublishes]
    unfold Record.escaped publishNow
    dsimp only
    cases env.json.dump (telemetryJson _) <;> rfl
  | false =>
    rw [iterate_keep rfl hpublishes]
    rfl

theorem run_covers (env : Env) (s : State) (turns : List Turn) :
    Covers turns (run env s turns) := by
  induction turns generalizing s with
  | nil => exact ⟨List.nil_prefix, fun _ => rfl, fun earlier _ _ h => by cases earlier <;> cases h⟩
  | cons turn rest ih =>
    have hturn := (iterate_check env s turn).1
    have hescaped := iterate_escaped env s turn
    unfold run
    cases hstep : iterate env s turn with
    | mk record after =>
      rw [hstep] at hturn hescaped
      change record.turn = turn at hturn
      change record.escaped = after.isNone at hescaped
      cases after with
      | none =>
        refine ⟨?_, fun hall => ?_, fun earlier last later h _ => ?_⟩
        · rw [List.map_singleton, hturn, List.cons_prefix_cons]
          exact ⟨rfl, List.nil_prefix⟩
        · rw [hall record List.mem_cons_self] at hescaped
          cases hescaped
        · cases earlier with
          | nil => exact (List.cons.inj h).2.symm
          | cons => simp at h
      | some after =>
        have hrest := ih after
        refine ⟨?_, fun hall => ?_, fun earlier last later h hlast => ?_⟩
        · rw [List.map_cons, hturn, List.cons_prefix_cons]
          exact ⟨rfl, hrest.given⟩
        · rw [List.map_cons, hturn,
            hrest.all fun other hother => hall other (List.mem_cons_of_mem _ hother)]
        · cases earlier with
          | nil =>
            rw [← (List.cons.inj h).1, hescaped] at hlast
            cases hlast
          | cons first earlier => exact hrest.last earlier last later (List.cons.inj h).2 hlast

theorem collected_popped {env : Env} {s : State} {turns : List Turn}
    {earlier later : List Record} {record : Record}
    (h : run env s turns = earlier ++ record :: later) {signal : DecodedSignal}
    (hsignal : signal ∈ collected earlier record) :
    ∃ turn ∈ turns, turn.popped = some signal := by
  have hrecords : ∃ r ∈ run env s turns, r.popped = some signal := by
    rw [h]
    rcases List.mem_append.mp hsignal with hwaiting | hown
    · have hall : (batches earlier).flatten ++ waiting earlier = earlier.filterMap Record.popped :=
        split_flatten [] earlier
      have hmem : signal ∈ earlier.filterMap Record.popped := by
        rw [← hall]
        exact List.mem_append_right _ hwaiting
      obtain ⟨r, hr, hpopped⟩ := List.mem_filterMap.mp hmem
      exact ⟨r, List.mem_append_left _ hr, hpopped⟩
    · refine ⟨record, by simp, ?_⟩
      exact Option.mem_toList.mp hown
  obtain ⟨r, hr, hpopped⟩ := hrecords
  have hturn : r.turn ∈ turns := (run_covers env s turns).given.subset (List.mem_map_of_mem hr)
  exact ⟨r.turn, hturn, hpopped⟩

end SdvGateway.Gateway.TelemetryPublisher

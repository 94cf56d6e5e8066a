import SdvGateway.Cloud.RecordOwnership
import SdvGateway.Common.Convert

/-! The dashboard page. What is missing from a row is replaced by a default, so that
every row gives a page. -/
namespace SdvGateway.Cloud.Dashboard
open Common Library Rules Python
open Gateway TelemetryPublisher

/-- `fixed` is the text of a number with some digits after the point; the tables are
named in the environment. -/
structure Env where
  python : Python
  fixed : Nat → Json → Str
  tableTelemetry : Str
  tableAnomalies : Str

def lines (texts : List String) : Str := [0x0A].intercalate (texts.map lit)

def isNumber : Json → Bool
  | .boolean _ | .integer _ | .float _ => true
  | _ => false

def numberText (env : Env) (places : Nat) (value : Json) : Str :=
  if isNumber value then env.fixed places value else env.python.format value

/-- What a `for` loop runs over: the items of a list, the keys of a dict, and the
characters of a string, one for each byte here, which no field is read from either. -/
def iterate : Json → Except PyError (List Json)
  | .array items => .ok items
  | .object members => .ok (members.map fun entry => .string entry.1)
  | .string text => .ok (text.map fun byte => .string [byte])
  | _ => .error .typeError

def noSignals : Str := lit "<tr><td colspan='3' style='color:#666'>no signals</td></tr>"

def signalRow (env : Env) (signal : Json) : Except PyError Str := do
  let name ← get signal (lit "name") (.string (lit "?"))
  let value ← get signal (lit "value") (.string (lit "?"))
  let unit ← get signal (lit "unit") (.string [])
  return lit "<tr><td>" ++ env.python.format name ++ lit "</td><td>" ++ numberText env 2 value ++
    lit "</td><td>" ++ env.python.format unit ++ lit "</td></tr>"

def formatSignals (env : Env) (item : Json) : Except PyError Str := do
  let signals ← get item (lit "signals") (.array [])
  if !truthy signals then return noSignals
  else
    let rows ← (← iterate signals).mapM (signalRow env)
    return rows.flatten

def teleRow (env : Env) (item : Json) : Except PyError Str := do
  let arrival ← get item (lit "arrival_ts") (.string (lit "—"))
  let ts ← get item (lit "timestamp") arrival
  let seq ← get item (lit "sequence_num") (.string (lit "—"))
  let sigHtml ← formatSignals env item
  return lines ["", "            <tr class=\"tele-header\">",
      "                <td rowspan=\"1\">"] ++
    env.python.format ts ++
    lines ["</td>", "                <td rowspan=\"1\">seq "] ++ env.python.format seq ++
    lines ["</td>", "                <td colspan=\"2\">",
      "                    <table class=\"inner\">",
      "                        <tr><th>Signal</th><th>Value</th><th>Unit</th></tr>",
      "                        "] ++
    sigHtml ++ lines ["", "                    </table>", "                </td>",
      "            </tr>"]

def teleRows (env : Env) (telemetry : List Json) : Except PyError Str :=
  if telemetry.isEmpty then
    return lit "<tr><td colspan='4' style='text-align:center;color:#666'>" ++
      lit "No data yet — start the gateway on Pi.</td></tr>"
  else do
    let rows ← telemetry.mapM (teleRow env)
    return rows.flatten

def anomalyRow (env : Env) (item : Json) : Except PyError Str := do
  let ts ← get item (lit "timestamp") (.string (lit "—"))
  let signal ← get item (lit "signal_name") (.string (lit "—"))
  let value ← get item (lit "value") (.string (lit "—"))
  let unit ← get item (lit "unit") (.string [])
  let probability ← get item (lit "anomaly_prob") (.string (lit "—"))
  let score ← get item (lit "anomaly_score") probability
  let severity ← get item (lit "severity") (.string (lit "WARNING"))
  let sevClass := if equalsText severity (lit "CRITICAL") then lit "critical" else lit "warning"
  return lines ["", "            <tr>", "                <td>"] ++ env.python.format ts ++
    lines ["</td>", "                <td>"] ++ env.python.format signal ++
    lines ["</td>", "                <td>"] ++ numberText env 2 value ++ lit " " ++
    env.python.format unit ++ lines ["</td>", "                <td>"] ++ numberText env 4 score ++
    lines ["</td>", "                <td class=\""] ++ sevClass ++ lit "\">" ++
    env.python.format severity ++ lines ["</td>", "            </tr>"]

def anomalyRows (env : Env) (anomalies : List Json) : Except PyError Str :=
  if anomalies.isEmpty then
    return lit "<tr><td colspan='6' style='text-align:center;color:#666'>" ++
      lit "No anomalies detected yet.</td></tr>"
  else do
    let rows ← anomalies.mapM (anomalyRow env)
    return rows.flatten

def pageHead : Str := lines [
  "<!DOCTYPE html>",
  "<html lang=\"en\">",
  "<head>",
  "  <meta charset=\"UTF-8\">",
  "  <meta http-equiv=\"refresh\" content=\"5\">",
  "  <title>SDV Edge Gateway — Live Dashboard</title>",
  "  <style>",
  "    * \x7b box-sizing: border-box; margin: 0; padding: 0; \x7d",
  "    body \x7b",
  "      font-family: 'Segoe UI', system-ui, sans-serif;",
  "      background: #0d1117;",
  "      color: #e6edf3;",
  "      padding: 24px;",
  "    \x7d",
  "    header \x7b",
  "      display: flex;",
  "      align-items: center;",
  "      gap: 12px;",
  "      margin-bottom: 24px;",
  "      border-bottom: 1px solid #21262d;",
  "      padding-bottom: 16px;",
  "    \x7d",
  "    header h1 \x7b font-size: 20px; font-weight: 600; \x7d",
  "    .badge \x7b",
  "      background: #238636;",
  "      color: #fff;",
  "      font-size: 11px;",
  "      padding: 2px 8px;",
  "      border-radius: 12px;",
  "      font-weight: 600;",
  "    \x7d",
  "    .uin-label \x7b",
  "      font-size: 13px;",
  "      color: #8b949e;",
  "      margin-left: auto;",
  "    \x7d",
  "    .refresh-note \x7b",
  "      font-size: 12px;",
  "      color: #484f58;",
  "      margin-left: 8px;",
  "    \x7d",
  "    section \x7b margin-bottom: 32px; \x7d",
  "    section h2 \x7b",
  "      font-size: 16px;",
  "      font-weight: 600;",
  "      margin-bottom: 12px;",
  "      color: #58a6ff;",
  "    \x7d",
  "    table \x7b",
  "      width: 100%;",
  "      border-collapse: collapse;",
  "      font-size: 13px;",
  "      background: #161b22;",
  "      border: 1px solid #21262d;",
  "      border-radius: 8px;",
  "      overflow: hidden;",
  "    \x7d",
  "    th \x7b",
  "      background: #21262d;",
  "      color: #8b949e;",
  "      font-weight: 600;",
  "      padding: 10px 14px;",
  "      text-align: left;",
  "      font-size: 12px;",
  "      text-transform: uppercase;",
  "      letter-spacing: 0.4px;",
  "    \x7d",
  "    td \x7b",
  "      padding: 10px 14px;",
  "      border-top: 1px solid #21262d;",
  "      vertical-align: top;",
  "    \x7d",
  "    tr:hover td \x7b background: #1c2128; \x7d",
  "    table.inner \x7b",
  "      background: transparent;",
  "      border: none;",
  "      font-size: 12px;",
  "    \x7d",
  "    table.inner th \x7b background: transparent; padding: 4px 8px; \x7d",
  "    table.inner td \x7b padding: 4px 8px; border-top: 1px solid #21262d44; \x7d",
  "    .critical \x7b",
  "      color: #f85149;",
  "      font-weight: 700;",
  "    \x7d",
  "    .warning \x7b",
  "      color: #e3b341;",
  "      font-weight: 600;",
  "    \x7d",
  "    footer \x7b",
  "      margin-top: 40px;",
  "      font-size: 11px;",
  "      color: #484f58;",
  "      text-align: center;",
  "    \x7d",
  "  </style>",
  "</head>",
  "<body>",
  "  <header>",
  "    <div>",
  "      <h1>SDV Edge Gateway</h1>",
  "    </div>",
  "    <span class=\"badge\">LIVE</span>",
  "    <span class=\"uin-label\">UIN: "]

def pageTelemetry : Str := lines [
  "</span>",
  "    <span class=\"refresh-note\">auto-refresh every 5s</span>",
  "  </header>",
  "",
  "  <section>",
  "    <h2>Telemetry — Last 20 Records</h2>",
  "    <table>",
  "      <thead>",
  "        <tr>",
  "          <th>Timestamp</th>",
  "          <th>Seq</th>",
  "          <th colspan=\"2\">Signals</th>",
  "        </tr>",
  "      </thead>",
  "      <tbody>",
  "        "]

def pageAnomalies : Str := lines [
  "",
  "      </tbody>",
  "    </table>",
  "  </section>",
  "",
  "  <section>",
  "    <h2>Anomaly Alerts — Last 10</h2>",
  "    <table>",
  "      <thead>",
  "        <tr>",
  "          <th>Timestamp</th>",
  "          <th>Signal</th>",
  "          <th>Value</th>",
  "          <th>Score</th>",
  "          <th>Severity</th>",
  "        </tr>",
  "      </thead>",
  "      <tbody>",
  "        "]

def pageTables : Str := lines [
  "",
  "      </tbody>",
  "    </table>",
  "  </section>",
  "",
  "  <footer>",
  "    sdv-edge-gateway P2.3 &nbsp;|&nbsp;",
  "    Tables: "]

def pageEnd : Str := lines [
  " &nbsp;|&nbsp;",
  "    github.com/manojbaliyan16/sdv-edge-gateway",
  "  </footer>",
  "</body>",
  "</html>"]

def buildHtml (env : Env) (telemetry anomalies : List Json) (uin : Str) :
    Except PyError Str := do
  let teleRows ← teleRows env telemetry
  let anomalyRows ← anomalyRows env anomalies
  return pageHead ++ uin ++ pageTelemetry ++ teleRows ++ pageAnomalies ++ anomalyRows ++
    pageTables ++ env.tableTelemetry ++ lit ", " ++ env.tableAnomalies ++ pageEnd

def valueTexts (env : Env) (msg : TelemetryMsg) : List Str :=
  [msg.vehicleSpeedKmh, msg.engineRpm, msg.engineCoolantTempC, msg.batteryVoltageV].map
    (env.fixed 2 <| .float ·) ++ [msg.gear]

/-- The page shows the values of a message, and no row without signals. -/
structure Shows (env : Env) (page : Str) (msg : TelemetryMsg) : Prop where
  values : ∀ text ∈ valueTexts env msg, text <:+: page
  signals : ¬noSignals <:+: page

theorem formatSignals_missing (env : Env) {members : List (Str × Json)}
    (h : Json.member? (lit "signals") members = none) :
    formatSignals env (.object members) = .ok noSignals := by
  simp [formatSignals, Python.get, h, truthy, bind, Except.bind, pure, Except.pure]

private theorem noSignals_infix_teleRow {env : Env} {item : Json} {row : Str}
    (hsignals : formatSignals env item = .ok noSignals) (h : teleRow env item = .ok row) :
    noSignals <:+: row := by
  simp only [teleRow, bind_eq_ok] at h
  obtain ⟨_, _, _, _, _, _, sigHtml, hsigHtml, h⟩ := h
  obtain rfl := Except.ok.inj (hsignals.symm.trans hsigHtml)
  cases h
  exact List.infix_append _ _ _

theorem noSignals_infix_page {env : Env} {telemetry anomalies : List Json} {uin page : Str}
    {members : List (Str × Json)} (hmember : Json.member? (lit "signals") members = none)
    (hmem : .object members ∈ telemetry)
    (h : buildHtml env telemetry anomalies uin = .ok page) : noSignals <:+: page := by
  simp only [buildHtml, bind_eq_ok] at h
  obtain ⟨rows, hrows, _, _, h⟩ := h
  cases h
  have hsome : telemetry.isEmpty = false := by
    cases telemetry with
    | nil => cases hmem
    | cons => rfl
  rw [teleRows, hsome] at hrows
  simp only [Bool.false_eq_true, if_false, bind_eq_ok] at hrows
  obtain ⟨texts, htexts, hrows⟩ := hrows
  cases hrows
  obtain ⟨row, hrow, hrender⟩ := exists_of_mapM htexts hmem
  have hinRow := noSignals_infix_teleRow (formatSignals_missing env hmember) hrender
  have hinRows := hinRow.trans (List.infix_of_mem_flatten hrow)
  apply hinRows.trans
  simp only [List.append_assoc]
  apply List.infix_append_of_infix_right
  apply List.infix_append_of_infix_right
  apply List.infix_append_of_infix_right
  exact List.infix_append_left

def memberNames : Json → List Str
  | .object members => members.map Prod.fst
  | _ => []

/-- The row is what the rule stores of the message that is built in a state. The
parser reads an object with the members that were written. -/
def IsStored (publisher : TelemetryPublisher.Env) (s : TelemetryPublisher.State)
    (timing : Timing) (engine : Engine) (row : Row) : Prop :=
  ∃ message published parsed,
    (publishNow publisher s timing).1.sent = .ok (message, published) ∧
      engine.parse message.payload = some parsed ∧
      memberNames parsed = memberNames (telemetryJson (publishNow publisher s timing).1.msg) ∧
      row ∈ createTelemetryRule.rows engine message

private theorem item_of_mem_put {rule : TopicRule} {item : List (Str × Json)} {row : Row}
    (h : row ∈ rule.put item) : row.item = item := by
  obtain ⟨action, _, haction⟩ := List.mem_filterMap.mp h
  cases action with
  | dynamoDBv2 table =>
    obtain ⟨keys, _, rfl⟩ := Option.map_eq_some_iff.mp haction
    rfl
  | lambda functionArn => cases haction

private theorem memberNames_telemetryJson (msg : TelemetryMsg) :
    memberNames (telemetryJson msg) =
      [lit "battery_voltage_v", lit "engine_coolant_temp_c", lit "engine_rpm", lit "from_buffer",
        lit "gear", lit "timestamp", lit "uin", lit "vehicle_speed_kmh"] := rfl

theorem signals_missing {publisher : TelemetryPublisher.Env} {s : TelemetryPublisher.State}
    {timing : Timing} {engine : Engine} {row : Row}
    (h : IsStored publisher s timing engine row) :
    Json.member? (lit "signals") row.item = none := by
  obtain ⟨message, published, parsed, _, hparse, hnames, hrow⟩ := h
  have hne : lit "arrival_ts" ≠ lit "signals" := by decide
  unfold TopicRule.rows at hrow
  rw [hparse] at hrow
  split at hrow
  · split at hrow
    · next members hobject =>
      obtain rfl := Option.some.inj hobject
      have hnone : lit "signals" ∉ members.map Prod.fst := by
        change lit "signals" ∉ memberNames (.object members)
        rw [hnames, memberNames_telemetryJson]
        decide +kernel
      rw [item_of_mem_put hrow]
      simp only [TopicRule.selected, createTelemetryRule, List.foldl_cons, List.foldl_nil,
        List.nil_append]
      rw [member?_replaceMember_of_ne hne]
      exact member?_eq_none hnone
    · cases hrow
  · cases hrow

theorem buildHtml_missing (env : Env) {members : List (Str × Json)}
    (h : Json.member? (lit "signals") members = none) (uin : Str) :
    ∃ page, buildHtml env [.object members] [] uin = .ok page := by
  have hrow : ∃ row, teleRow env (.object members) = .ok row := by
    simp [teleRow, formatSignals_missing env h, Python.get, bind, Except.bind, pure, Except.pure]
  obtain ⟨row, hrow⟩ := hrow
  simp [buildHtml, teleRows, anomalyRows, hrow, bind, Except.bind, pure, Except.pure]

/-- A stored message gives a page, and none of the pages with its row shows it: the
row has no list of signals. -/
theorem not_shows {publisher : TelemetryPublisher.Env} {s : TelemetryPublisher.State}
    {timing : Timing} {engine : Engine} {row : Row}
    (hstored : IsStored publisher s timing engine row) (env : Env) :
    (∀ uin, ∃ page, buildHtml env [.object row.item] [] uin = .ok page) ∧
      ∀ telemetry anomalies uin page, .object row.item ∈ telemetry →
        buildHtml env telemetry anomalies uin = .ok page →
        ¬Shows env page (publishNow publisher s timing).1.msg := by
  have hmissing := signals_missing hstored
  refine ⟨?_, ?_⟩
  · exact buildHtml_missing env hmissing
  · intro telemetry anomalies uin page hmem hpage hshows
    exact hshows.signals (noSignals_infix_page hmissing hmem hpage)

/-! A message with a gear and no other signal. -/

def samplePublisher : TelemetryPublisher.Env where
  json := ⟨fun _ => .error .parseError, fun _ => lit "0.0"⟩
  toInt _ := 3
  uin := lit "V1"

def sampleState : TelemetryPublisher.State := ⟨∅, lit "D", true, 0⟩

def sampleTiming : Timing := ⟨5000000000, 1718000000123000000, true, 5000000000⟩

def sampleJson : Json :=
  telemetryJson (telemetryMsg samplePublisher sampleState sampleTiming.wallClock)

def sampleMessage : Message :=
  ⟨telemetryTopic samplePublisher.uin, samplePublisher.json.compact sampleJson⟩

def sampleEngine : Engine := ⟨fun _ => some sampleJson, 1718000000200⟩

def sampleEnv : Env where
  python :=
    { loads := fun _ => .ok (.object [])
      loads_empty := rfl
      dumps := fun _ => []
      str := fun _ => []
      percent := fun _ => []
      message := fun _ => [] }
  fixed _ _ := lit "0.00"
  tableTelemetry := tableTelemetry
  tableAnomalies := tableAnomalies

theorem exists_isStored :
    ∃ row, IsStored samplePublisher sampleState sampleTiming sampleEngine row := by
  have hprintable : sampleJson.printable = true := by decide +kernel
  have hrule : createTelemetryRule ∈ rules none := List.mem_cons_self
  have hlistens : createTelemetryRule.listens sampleMessage.topic = true := by decide +kernel
  have hkeys : RecordOwnership.payloadKeys sampleEngine sampleMessage.payload =
      some ⟨lit "V1", lit "2024-06-10T06:13:20.123Z"⟩ := by decide +kernel
  obtain ⟨row, hrow, _⟩ := RecordOwnership.exists_row hrule hlistens hkeys
  exact ⟨row, sampleMessage, true, sampleJson, publishNow_sent (if_pos hprintable), rfl, rfl, hrow⟩

theorem not_shows_sample :
    ∃ row : Row, (∀ uin, ∃ page, buildHtml sampleEnv [.object row.item] [] uin = .ok page) ∧
      ∀ telemetry anomalies uin page, .object row.item ∈ telemetry →
        buildHtml sampleEnv telemetry anomalies uin = .ok page →
        ¬Shows sampleEnv page (publishNow samplePublisher sampleState sampleTiming).1.msg := by
  obtain ⟨row, hstored⟩ := exists_isStored
  exact ⟨row, not_shows hstored sampleEnv⟩

theorem dashboard_hides_gear :
    ¬∀ publisher s timing engine row, IsStored publisher s timing engine row →
      ∀ env uin page, buildHtml env [.object row.item] [] uin = .ok page →
        Shows env page (publishNow publisher s timing).1.msg := by
  intro hall
  obtain ⟨row, hstored⟩ := exists_isStored
  have hmissing := signals_missing hstored
  obtain ⟨page, hpage⟩ := buildHtml_missing sampleEnv hmissing (lit "V1")
  have hshows := hall _ _ _ _ row hstored sampleEnv (lit "V1") page hpage
  exact hshows.signals (noSignals_infix_page hmissing List.mem_cons_self hpage)

end SdvGateway.Cloud.Dashboard

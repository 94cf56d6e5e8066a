import SdvGateway.Cloud.Dashboard
import SdvGateway.Cloud.Records

/-! The function behind the dashboard: it queries both tables and answers with the page or
with the rows themselves. -/
namespace SdvGateway.Cloud.DashboardApi
open Common Library Rules Records Python Dashboard

/-- The tables, and the text of the exception that a query of one of them raises. -/
structure World where
  database : Database
  fails : Str → Option Str

/-- `dumpsIndented` is `json.dumps` with the encoder for decimals and an indent of two. -/
structure Config where
  page : Dashboard.Env
  dumpsIndented : Json → Str
  targetUin : Str

structure Response where
  statusCode : Nat
  contentType : Str
  body : Str
deriving DecidableEq

def queryLatest (world : World) (table uin : Str) (limit : Nat) : List Json :=
  match world.fails table with
  | none => ((world.database table uin).latest limit).map .object
  | some text => [.object [(lit "error", .string text)]]

abbrev Query := Option (List (Str × Str))

def uinOf (config : Config) (query : Query) : Str :=
  ((query.getD []).lookup (lit "uin")).getD config.targetUin

def lambdaHandler (config : Config) (world : World) (query : Query) :
    Except PyError Response := do
  let qs := query.getD []
  let uin := (qs.lookup (lit "uin")).getD config.targetUin
  let fmt := (qs.lookup (lit "fmt")).getD (lit "html")
  let telemetry := queryLatest world config.page.tableTelemetry uin 20
  let anomalies := queryLatest world config.page.tableAnomalies uin 10
  if fmt = lit "json" then
    return ⟨200, lit "application/json", config.dumpsIndented (.object [
      (lit "uin", .string uin), (lit "telemetry", .array telemetry),
      (lit "anomalies", .array anomalies)])⟩
  else
    let html ← buildHtml config.page telemetry anomalies uin
    return ⟨200, lit "text/html; charset=utf-8", html⟩

def frame (config : Config) (uin telemetry anomalies : Str) : Str :=
  pageHead ++ uin ++ pageTelemetry ++ telemetry ++ pageAnomalies ++ anomalies ++ pageTables ++
    config.page.tableTelemetry ++ lit ", " ++ config.page.tableAnomalies ++ pageEnd

def noTelemetry : Str :=
  lit "<tr><td colspan='4' style='text-align:center;color:#666'>" ++
    lit "No data yet — start the gateway on Pi.</td></tr>"

def noAnomalies : Str :=
  lit "<tr><td colspan='6' style='text-align:center;color:#666'>" ++
    lit "No anomalies detected yet.</td></tr>"

def shown (placeholder : Str) (texts : List Str) : Str :=
  if texts.isEmpty then placeholder else texts.flatten

/-- The row of a post. The gateway writes neither a sequence number nor a list of signals
into its messages, so that a message shows its time stamp and nothing else. -/
def rowText (config : Config) : Post → Str
  | post@(.telemetry _) =>
    lines ["", "            <tr class=\"tele-header\">",
      "                <td rowspan=\"1\">"] ++
    post.timestamp ++
    lines ["</td>", "                <td rowspan=\"1\">seq "] ++ lit "—" ++
    lines ["</td>", "                <td colspan=\"2\">",
      "                    <table class=\"inner\">",
      "                        <tr><th>Signal</th><th>Value</th><th>Unit</th></tr>",
      "                        "] ++
    noSignals ++ lines ["", "                    </table>", "                </td>",
      "            </tr>"]
  | post@(.alert env _ signal score) =>
    let severity := Gateway.AnomalyDetector.severity score
    lines ["", "            <tr>", "                <td>"] ++ post.timestamp ++
    lines ["</td>", "                <td>"] ++ signal.name ++
    lines ["</td>", "                <td>"] ++ config.page.fixed 2 (.float signal.value) ++
    lit " " ++ signal.unit ++
    lines ["</td>", "                <td>"] ++
    config.page.fixed 4 (.float (env.singles.toDouble score)) ++
    lines ["</td>", "                <td class=\""] ++
    (if severity = lit "CRITICAL" then lit "critical" else lit "warning") ++ lit "\">" ++
    severity ++ lines ["</td>", "            </tr>"]

theorem ne_nil_of_mapM {f : α → Except PyError β} {a : α} {rest : List α} {bs : List β}
    (h : (a :: rest).mapM f = .ok bs) : bs.isEmpty = false := by
  obtain ⟨b, hmem, _⟩ := exists_of_mapM h List.mem_cons_self
  cases bs with
  | nil => cases hmem
  | cons => rfl

theorem teleRows_shown {env : Dashboard.Env} {telemetry : List Json} {texts : List Str}
    (h : telemetry.mapM (teleRow env) = .ok texts) :
    teleRows env telemetry = .ok (shown noTelemetry texts) := by
  cases telemetry with
  | nil =>
    cases h
    rfl
  | cons item rest =>
    rw [shown, ne_nil_of_mapM h]
    simp only [teleRows, List.isEmpty_cons, Bool.false_eq_true, if_false, h]
    rfl

theorem anomalyRows_shown {env : Dashboard.Env} {anomalies : List Json} {texts : List Str}
    (h : anomalies.mapM (anomalyRow env) = .ok texts) :
    anomalyRows env anomalies = .ok (shown noAnomalies texts) := by
  cases anomalies with
  | nil =>
    cases h
    rfl
  | cons item rest =>
    rw [shown, ne_nil_of_mapM h]
    simp only [anomalyRows, List.isEmpty_cons, Bool.false_eq_true, if_false, h]
    rfl

theorem signals_item (post : Post) (time : Int) :
    Json.member? (lit "signals") (post.item time) = none := by
  have hne : lit "arrival_ts" ≠ lit "signals" := by decide
  cases post with
  | telemetry msg =>
    have hmissing : Json.member? (lit "signals") (Post.telemetry msg).members = none := rfl
    simpa [Post.item, TopicRule.selected, createTelemetryRule, member?_replaceMember_of_ne hne]
      using hmissing
  | alert => rfl

theorem teleRow_item (config : Config) (msg : TelemetryMsg) (time : Int) :
    teleRow config.page (.object ((Post.telemetry msg).item time)) =
      .ok (rowText config (.telemetry msg)) := by
  have hsignals := formatSignals_missing config.page (signals_item (.telemetry msg) time)
  have hne : lit "arrival_ts" ≠ lit "timestamp" ∧ lit "arrival_ts" ≠ lit "sequence_num" := by
    decide
  have htimestamp : Json.member? (lit "timestamp") ((Post.telemetry msg).item time) =
      some (.string (Post.telemetry msg).timestamp) := by
    have hmember : Json.member? (lit "timestamp") (Post.telemetry msg).members =
        some (.string (Post.telemetry msg).timestamp) := rfl
    simpa [Post.item, TopicRule.selected, createTelemetryRule, member?_replaceMember_of_ne hne.1]
      using hmember
  have hnumber : Json.member? (lit "sequence_num") ((Post.telemetry msg).item time) = none := by
    have hmissing : Json.member? (lit "sequence_num") (Post.telemetry msg).members = none := rfl
    simpa [Post.item, TopicRule.selected, createTelemetryRule, member?_replaceMember_of_ne hne.2]
      using hmissing
  simp only [teleRow, Python.get, htimestamp, hnumber, hsignals, Option.getD_some,
    Option.getD_none, rowText, bind, Except.bind, pure, Except.pure, Python.format]

theorem anomalyRow_item (config : Config) (env : Gateway.AnomalyDetector.Env) (now : Int)
    (signal : DecodedSignal) (score : Single) (time : Int) :
    anomalyRow config.page (.object ((Post.alert env now signal score).item time)) =
      .ok (rowText config (.alert env now signal score)) := by
  let item := (Post.alert env now signal score).item time
  have htimestamp : Json.member? (lit "timestamp") item =
      some (.string (Post.alert env now signal score).timestamp) := rfl
  have hname : Json.member? (lit "signal_name") item = some (.string signal.name) := rfl
  have hvalue : Json.member? (lit "value") item = some (.float signal.value) := rfl
  have hunit : Json.member? (lit "unit") item = some (.string signal.unit) := rfl
  have hscore : Json.member? (lit "anomaly_score") item =
      some (.float (env.singles.toDouble score)) := rfl
  have hseverity : Json.member? (lit "severity") item =
      some (.string (Gateway.AnomalyDetector.severity score)) := rfl
  change anomalyRow config.page (.object item) = _
  simp only [anomalyRow, Python.get, htimestamp, hname, hvalue, hunit, hscore, hseverity,
    Option.getD_some, rowText, bind, Except.bind, pure, Except.pure, Python.format, numberText,
    isNumber, if_true, equalsText, decide_eq_true_eq]

def fmtOf (query : Query) : Str := ((query.getD []).lookup (lit "fmt")).getD (lit "html")

theorem lambdaHandler_html {config : Config} {world : World} {query : Query}
    (hfmt : fmtOf query ≠ lit "json") {teleTexts alertTexts : List Str}
    (htelemetry : (queryLatest world config.page.tableTelemetry (uinOf config query) 20).mapM
      (teleRow config.page) = .ok teleTexts)
    (halerts : (queryLatest world config.page.tableAnomalies (uinOf config query) 10).mapM
      (anomalyRow config.page) = .ok alertTexts) :
    lambdaHandler config world query = .ok ⟨200, lit "text/html; charset=utf-8",
      frame config (uinOf config query) (shown noTelemetry teleTexts)
        (shown noAnomalies alertTexts)⟩ := by
  unfold fmtOf at hfmt
  unfold uinOf at htelemetry halerts
  unfold lambdaHandler
  dsimp only
  rw [if_neg hfmt, buildHtml, teleRows_shown htelemetry]
  simp only [anomalyRows_shown halerts]
  rfl

private theorem mapM_object {f : Json → Except PyError Str} {text : Post → Str} {posts : List Post}
    {items : List Item} (h : List.Forall₂ (fun post item => ∃ time, item = Post.item post time)
      posts items)
    (hrow : ∀ post ∈ posts, ∀ time, f (.object (post.item time)) = .ok (text post)) :
    (items.map Json.object).mapM f = .ok (posts.map text) := by
  induction h with
  | nil => rfl
  | @cons post item rest items hfirst _ ih =>
    obtain ⟨time, rfl⟩ := hfirst
    obtain ⟨hpost, hrest⟩ := List.forall_mem_cons.mp hrow
    rw [List.map_cons, List.mapM_cons, hpost, ih hrest]
    rfl

/-- Whatever a fleet publishes, however often and in which order it arrives: the page of a
vehicle shows its newest messages and its newest alerts, the newest first. Of those with one
time stamp it is the last to arrive. -/
theorem page_shows_newest {parse : Str → Option Json} {json : JsonText}
    {deliveries : List Delivery}
    (hread : ∀ delivery ∈ deliveries, Understood parse json delivery.1) (config : Config)
    (hconfig : config.page.tableTelemetry = tableTelemetry ∧
      config.page.tableAnomalies = tableAnomalies) (lambdaArn : Option Str) (query : Query)
    (hfmt : fmtOf query ≠ lit "json") {telemetry alerts : List Post}
    (htelemetry : ∀ post, post ∈ telemetry ↔
      Kept deliveries tableTelemetry (uinOf config query) post)
    (halerts : ∀ post, post ∈ alerts ↔ Kept deliveries tableAnomalies (uinOf config query) post)
    (hordered : Ordered telemetry ∧ Ordered alerts) :
    lambdaHandler config ⟨recorded parse lambdaArn (arrivals json deliveries), fun _ => none⟩
        query = .ok ⟨200, lit "text/html; charset=utf-8",
      frame config (uinOf config query)
        (shown noTelemetry ((telemetry.reverse.take 20).map (rowText config)))
        (shown noAnomalies ((alerts.reverse.take 10).map (rowText config)))⟩ := by
  have htables : tableTelemetry ≠ tableAnomalies := by decide
  apply lambdaHandler_html hfmt
  · rw [hconfig.1]
    apply mapM_object (latest_posts hread htelemetry hordered.1 lambdaArn 20)
    intro post hpost time
    obtain ⟨htable, -⟩ := (htelemetry post).mp (List.mem_reverse.mp (List.mem_of_mem_take hpost))
    cases post with
    | telemetry msg => exact teleRow_item config msg time
    | alert => exact absurd htable.symm htables
  · rw [hconfig.2]
    apply mapM_object (latest_posts hread halerts hordered.2 lambdaArn 10)
    intro post hpost time
    obtain ⟨htable, -⟩ := (halerts post).mp (List.mem_reverse.mp (List.mem_of_mem_take hpost))
    cases post with
    | telemetry => exact absurd htable htables
    | alert env now signal score => exact anomalyRow_item config env now signal score time

def sampleUin : Str := lit "2T1BURHE0JC123456"

def sampleTelemetry : Post :=
  .telemetry ⟨sampleUin, ⟨0⟩, ⟨0⟩, ⟨0⟩, ⟨0⟩, lit "D", 1718000000123000000, false⟩

def sampleAlert : Post := .alert Gateway.AnomalyDetector.sampleEnv 1718000000456000000
  ⟨lit "BATTERY_VOLTAGE", ⟨0⟩, lit "V", 0⟩ ⟨0x3F800000⟩

def sampleParse (text : Str) : Option Json :=
  if text = (sampleAlert.message samplePublisher.json).payload then some sampleAlert.document
  else some sampleTelemetry.document

def sampleDeliveries : List Delivery :=
  [(sampleTelemetry, 1), (sampleAlert, 2), (sampleTelemetry, 3)]

def sampleConfig : Config := ⟨Dashboard.sampleEnv, fun _ => [], sampleUin⟩

theorem sample_understood : ∀ delivery ∈ sampleDeliveries,
    Understood sampleParse samplePublisher.json delivery.1 := by
  have huin : ∀ byte ∈ sampleUin, Topics.isLetterOrDigit byte = true := by decide +kernel
  have hne : (sampleTelemetry.message samplePublisher.json).payload ≠
      (sampleAlert.message samplePublisher.json).payload := by decide
  have htelemetry : Understood sampleParse samplePublisher.json sampleTelemetry :=
    ⟨huin, by decide, if_neg hne⟩
  have halert : Understood sampleParse samplePublisher.json sampleAlert :=
    ⟨huin, by decide, if_pos rfl⟩
  intro delivery hdelivery
  simp only [sampleDeliveries, List.mem_cons, List.not_mem_nil, or_false] at hdelivery
  rcases hdelivery with rfl | rfl | rfl
  · exact htelemetry
  · exact halert
  · exact htelemetry

theorem page_shows_newest_sample :
    lambdaHandler sampleConfig
        ⟨recorded sampleParse none (arrivals samplePublisher.json sampleDeliveries), fun _ => none⟩
        none = .ok ⟨200, lit "text/html; charset=utf-8",
      frame sampleConfig (uinOf sampleConfig none)
        (shown noTelemetry [rowText sampleConfig sampleTelemetry])
        (shown noAnomalies [rowText sampleConfig sampleAlert])⟩ := by
  have htables : sampleTelemetry.table ≠ tableAnomalies ∧ sampleAlert.table ≠ tableTelemetry := by
    decide
  have hsample : ∀ table uin post, Kept sampleDeliveries table uin post →
      post.table = table ∧ (post = sampleTelemetry ∨ post = sampleAlert) := by
    rintro table uin post ⟨htable, -, earlier, time, later, hsplit, -⟩
    have hmem : (post, time) ∈ sampleDeliveries := by simp [hsplit]
    refine ⟨htable, ?_⟩
    simp only [sampleDeliveries, List.mem_cons, List.not_mem_nil, or_false, Prod.mk.injEq] at hmem
    tauto
  have htelemetry : ∀ post, post ∈ [sampleTelemetry] ↔
      Kept sampleDeliveries tableTelemetry (uinOf sampleConfig none) post := by
    intro post
    rw [List.mem_singleton]
    refine ⟨?_, fun hkept => ?_⟩
    · rintro rfl
      exact ⟨rfl, rfl, [(sampleTelemetry, 1), (sampleAlert, 2)], 3, [], rfl,
        fun _ h => absurd h List.not_mem_nil⟩
    · obtain ⟨htable, rfl | rfl⟩ := hsample _ _ post hkept
      · rfl
      · exact absurd htable htables.2
  have halerts : ∀ post, post ∈ [sampleAlert] ↔
      Kept sampleDeliveries tableAnomalies (uinOf sampleConfig none) post := by
    intro post
    rw [List.mem_singleton]
    refine ⟨?_, fun hkept => ?_⟩
    · rintro rfl
      refine ⟨rfl, rfl, [(sampleTelemetry, 1)], 2, [(sampleTelemetry, 3)], rfl, ?_⟩
      intro delivery hdelivery htable
      rw [List.mem_singleton.mp hdelivery] at htable
      exact absurd htable htables.1
    · obtain ⟨htable, rfl | rfl⟩ := hsample _ _ post hkept
      · exact absurd htable htables.1
      · rfl
  have hordered : Ordered [sampleTelemetry] ∧ Ordered [sampleAlert] := by
    refine ⟨⟨?_, List.pairwise_singleton _ _⟩, ⟨?_, List.pairwise_singleton _ _⟩⟩
    · simp only [List.forall_mem_singleton]
      decide
    · simp only [List.forall_mem_singleton]
      decide
  have hnewest (post : Post) (limit : Nat) (h : 0 < limit) : [post].reverse.take limit = [post] :=
    List.take_of_length_le h
  have hpage := page_shows_newest sample_understood sampleConfig ⟨rfl, rfl⟩ none none (by decide)
    htelemetry halerts hordered
  simp only [hnewest _ 20 (by decide), hnewest _ 10 (by decide), List.map_singleton] at hpage
  exact hpage

end SdvGateway.Cloud.DashboardApi

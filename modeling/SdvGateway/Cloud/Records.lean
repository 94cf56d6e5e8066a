import Mathlib.Logic.Function.Basic
import SdvGateway.Cloud.RecordOwnership
import SdvGateway.Cloud.Topics
import SdvGateway.Common.TimestampOrder
import SdvGateway.Library.SortedTable

/-! The two tables. A message that a rule takes writes one row, under the uin and in the
order of the time stamps; the broker may deliver it late and more than once. -/
namespace SdvGateway.Cloud.Records
open Common Library Rules Topics Python

instance : IsStrictTotalOrder Str (· < ·) where
  trichotomous _ _ hab hba := List.le_antisymm hba hab
  irrefl := List.lt_irrefl
  trans _ _ _ hab hbc := List.lt_trans hab hbc

abbrev Item := List (Str × Json)

/-- The rows of each table under each uin, the newest first. -/
abbrev Database := Str → Str → SortedTable Str Item

def emptyDatabase : Database := fun _ _ => SortedTable.empty

def putRow (db : Database) (row : Row) : Database :=
  Function.update db row.table
    (Function.update (db row.table) row.keys.uin
      ((db row.table row.keys.uin).put (row.keys.timestamp, row.item)))

structure Arrival where
  message : Message
  time : Int

def arrivingRows (parse : Str → Option Json) (lambdaArn : Option Str) (arrival : Arrival) :
    List Row :=
  (rules lambdaArn).flatMap (·.rows ⟨parse, arrival.time⟩ arrival.message)

def recorded (parse : Str → Option Json) (lambdaArn : Option Str) (arrivals : List Arrival) :
    Database :=
  arrivals.foldl (fun db arrival => (arrivingRows parse lambdaArn arrival).foldl putRow db)
    emptyDatabase

def entries (table uin : Str) (rows : List Row) : List (Str × Item) :=
  rows.filterMap fun row =>
    if row.table = table ∧ row.keys.uin = uin then some (row.keys.timestamp, row.item) else none

private theorem putRow_apply (db : Database) (row : Row) (table uin : Str) :
    putRow db row table uin = (db table uin).putAll (entries table uin [row]) := by
  unfold putRow entries
  by_cases htable : table = row.table
  · subst htable
    by_cases huin : uin = row.keys.uin
    · subst huin
      simp [SortedTable.putAll]
    · simp [huin, Ne.symm huin, SortedTable.putAll]
  · simp [htable, Ne.symm htable, SortedTable.putAll]

private theorem putRows_apply (db : Database) (rows : List Row) (table uin : Str) :
    rows.foldl putRow db table uin = (db table uin).putAll (entries table uin rows) := by
  induction rows generalizing db with
  | nil => rfl
  | cons row rest ih =>
    have hentries : entries table uin (row :: rest) =
        entries table uin [row] ++ entries table uin rest := by
      rw [entries, ← List.singleton_append, List.filterMap_append]
      rfl
    rw [List.foldl_cons, ih, putRow_apply, hentries, SortedTable.putAll, SortedTable.putAll,
      SortedTable.putAll, List.foldl_append]

theorem recorded_apply (parse : Str → Option Json) (lambdaArn : Option Str)
    (arrivals : List Arrival) (table uin : Str) :
    recorded parse lambdaArn arrivals table uin = SortedTable.empty.putAll
      (entries table uin (arrivals.flatMap (arrivingRows parse lambdaArn))) := by
  have hfold : recorded parse lambdaArn arrivals =
      (arrivals.flatMap (arrivingRows parse lambdaArn)).foldl putRow emptyDatabase := by
    rw [List.foldl_flatMap]
    rfl
  rw [hfold, putRows_apply]
  rfl

theorem mem_entries {table uin timestamp : Str} {item : Item} {rows : List Row} :
    (timestamp, item) ∈ entries table uin rows ↔ ⟨table, ⟨uin, timestamp⟩, item⟩ ∈ rows := by
  simp only [entries, List.mem_filterMap]
  refine ⟨?_, fun hrow => ⟨_, hrow, by simp⟩⟩
  rintro ⟨⟨table', ⟨uin', timestamp'⟩, item'⟩, hrow, hentry⟩
  split at hentry
  · next heq =>
    obtain ⟨rfl, rfl⟩ := heq
    cases hentry
    exact hrow
  · cases hentry

inductive Post where
  | telemetry (msg : TelemetryMsg)
  | alert (env : Gateway.AnomalyDetector.Env) (now : Int) (signal : DecodedSignal) (score : Single)

namespace Post
open Gateway

def document : Post → Json
  | .telemetry msg => TelemetryPublisher.telemetryJson msg
  | .alert env now signal score => AnomalyDetector.alertJson env now signal score

def uin : Post → Str
  | .telemetry msg => msg.uin
  | .alert env _ _ _ => env.uin

def builtAt : Post → Int
  | .telemetry msg => msg.timestamp.toInt
  | .alert _ now _ _ => now

def topic (post : Post) : Str :=
  topicOf post.uin (match post with | .telemetry _ => .telemetry | .alert _ _ _ _ => .alert)

def message (json : JsonText) (post : Post) : Message := ⟨post.topic, json.compact post.document⟩

def members (post : Post) : Item :=
  match post.document with
  | .object members => members
  | _ => []

def table : Post → Str
  | .telemetry _ => tableTelemetry
  | .alert _ _ _ _ => tableAnomalies

def item (post : Post) (time : Int) : Item :=
  match post with
  | .telemetry _ => createTelemetryRule.selected time post.members
  | .alert _ _ _ _ => post.members

def timestamp (post : Post) : Str := iso8601Utc post.builtAt

def row (post : Post) (time : Int) : Row :=
  ⟨post.table, ⟨post.uin, post.timestamp⟩, post.item time⟩

end Post

/-- The vehicle has a uin that is no empty key, and the rule engine reads what it writes. -/
structure Understood (parse : Str → Option Json) (json : JsonText) (post : Post) : Prop where
  uin : ∀ byte ∈ post.uin, isLetterOrDigit byte = true
  nonempty : post.uin ≠ []
  parsed : parse (post.message json).payload = some post.document

theorem telemetry_second_ne (lambdaArn : Option Str) (uin : Str) :
    (createAnomalyRule lambdaArn).listens (topicOf uin .telemetry) = false := by
  have hfilter : (createAnomalyRule lambdaArn).filter =
      lit "sdv" ++ 0x2F :: (lit "Analytics" ++ 0x2F :: lit "from/uin/+/anomaly") := rfl
  have htopic : topicOf uin .telemetry =
      lit "sdv" ++ 0x2F :: (lit "telemetry" ++ 0x2F :: (lit "from/uin/" ++ uin)) := rfl
  rw [TopicRule.listens, hfilter, htopic]
  apply TopicFilter.matchesTopic_second_ne <;> decide

theorem alert_second_ne (uin : Str) :
    createTelemetryRule.listens (topicOf uin .alert) = false := by
  have hfilter : createTelemetryRule.filter =
      lit "sdv" ++ 0x2F :: (lit "telemetry" ++ 0x2F :: lit "from/uin/+") := rfl
  have htopic : topicOf uin .alert =
      lit "sdv" ++ 0x2F :: (lit "Analytics" ++ 0x2F :: (lit "from/uin/" ++ uin ++
        lit "/anomaly")) := rfl
  rw [TopicRule.listens, hfilter, htopic]
  apply TopicFilter.matchesTopic_second_ne <;> decide

private theorem keyText_string {name text : Str} {item : Item}
    (h : Json.member? name item = some (.string text)) (hne : text ≠ []) :
    keyText name item = some text := by
  rw [keyText, h]
  cases text with
  | nil => exact absurd rfl hne
  | cons => rfl

private theorem iso8601Utc_ne_nil (tp : Int) : iso8601Utc tp ≠ [] := by
  have hdash : lit "-" ≠ [] := by decide
  simp [iso8601Utc, hdash]

theorem keys?_members {post : Post} (hne : post.uin ≠ []) :
    keys? post.members = some ⟨post.uin, post.timestamp⟩ := by
  have huin : Json.member? (lit "uin") post.members = some (.string post.uin) := by
    cases post <;> rfl
  have htimestamp : Json.member? (lit "timestamp") post.members =
      some (.string post.timestamp) := by
    cases post <;> rfl
  rw [keys?, keyText_string huin hne, keyText_string htimestamp (iso8601Utc_ne_nil _)]
  rfl

theorem document_eq (post : Post) : post.document = .object post.members := by
  cases post <;> rfl

private theorem put_telemetry {item : Item} {keys : Keys} (h : keys? item = some keys) :
    createTelemetryRule.put item = [⟨tableTelemetry, keys, item⟩] := by
  simp [TopicRule.put, createTelemetryRule, h]

private theorem put_anomaly {item : Item} {keys : Keys} (h : keys? item = some keys)
    (lambdaArn : Option Str) :
    (createAnomalyRule lambdaArn).put item = [⟨tableAnomalies, keys, item⟩] := by
  cases lambdaArn <;> simp [TopicRule.put, createAnomalyRule, h]

theorem arrivingRows_post {parse : Str → Option Json} {json : JsonText} {post : Post}
    (h : Understood parse json post) (lambdaArn : Option Str) (time : Int) :
    arrivingRows parse lambdaArn ⟨post.message json, time⟩ = [post.row time] := by
  have hparse := h.parsed
  rw [document_eq] at hparse
  have hkeys := keys?_members h.nonempty
  have hcreate : createTelemetryRule ∈ rules lambdaArn := List.mem_cons_self
  have hselected := RecordOwnership.keys?_selected hcreate time post.members
  rw [hkeys] at hselected
  let uin : Uin := ⟨post.uin, h.uin⟩
  cases post with
  | telemetry msg =>
    have hlistens : createTelemetryRule.listens ((Post.telemetry msg).message json).topic = true :=
      telemetry_listens uin
    have hother : (createAnomalyRule lambdaArn).listens
        ((Post.telemetry msg).message json).topic = false := telemetry_second_ne lambdaArn _
    simp only [arrivingRows, rules, List.flatMap_cons, List.flatMap_nil, TopicRule.rows, hlistens,
      hother, hparse, if_true, Bool.false_eq_true, if_false, List.append_nil]
    exact put_telemetry hselected
  | alert env now signal score =>
    have hlistens : (createAnomalyRule lambdaArn).listens
        ((Post.alert env now signal score).message json).topic = true := alert_listens lambdaArn uin
    have hother : createTelemetryRule.listens
        ((Post.alert env now signal score).message json).topic = false := alert_second_ne _
    simp only [arrivingRows, rules, List.flatMap_cons, List.flatMap_nil, TopicRule.rows, hlistens,
      hother, hparse, if_true, Bool.false_eq_true, if_false, List.append_nil, List.nil_append]
    exact put_anomaly hkeys lambdaArn

abbrev Delivery := Post × Int

def arrivals (json : JsonText) (deliveries : List Delivery) : List Arrival :=
  deliveries.map fun delivery => ⟨delivery.1.message json, delivery.2⟩

theorem rows_arrivals {parse : Str → Option Json} {json : JsonText} {deliveries : List Delivery}
    (hread : ∀ delivery ∈ deliveries, Understood parse json delivery.1)
    (lambdaArn : Option Str) :
    (arrivals json deliveries).flatMap (arrivingRows parse lambdaArn) =
      deliveries.map fun delivery => delivery.1.row delivery.2 := by
  induction deliveries with
  | nil => rfl
  | cons delivery rest ih =>
    obtain ⟨hfirst, hrest⟩ := List.forall_mem_cons.mp hread
    rw [arrivals, List.map_cons, List.flatMap_cons, arrivingRows_post hfirst, List.map_cons]
    exact congrArg _ (ih hrest)

/-- The post was the last to arrive of those with its table, uin and time stamp. -/
def Kept (deliveries : List Delivery) (table uin : Str) (post : Post) : Prop :=
  post.table = table ∧ post.uin = uin ∧
    ∃ earlier time later, deliveries = earlier ++ (post, time) :: later ∧
      ∀ delivery ∈ later, delivery.1.table = table → delivery.1.uin = uin →
        delivery.1.timestamp ≠ post.timestamp

/-- Posts that were built one after another, in different milliseconds. -/
structure Ordered (posts : List Post) : Prop where
  since : ∀ post ∈ posts, 0 ≤ post.builtAt ∧ post.builtAt < TimestampOrder.endOfTime
  clock : posts.Pairwise fun post later => post.builtAt / 1000000 < later.builtAt / 1000000

theorem Ordered.timestamps {posts : List Post} (h : Ordered posts) :
    (posts.map Post.timestamp).Pairwise (· < ·) := by
  apply List.pairwise_map.mpr
  apply h.clock.imp_of_mem
  intro post later hpost hlater hless
  exact TimestampOrder.iso8601Utc_lt (h.since post hpost).1 (h.since later hlater).2 hless

theorem kept_of_mem_rows {deliveries : List Delivery} {table uin timestamp : Str} {item : Item}
    (h : (timestamp, item) ∈ (SortedTable.empty.putAll (entries table uin
      (deliveries.map fun delivery => delivery.1.row delivery.2))).rows) :
    ∃ post time, Kept deliveries table uin post ∧ post.timestamp = timestamp ∧
      post.item time = item := by
  obtain ⟨before, after, hentries, hlast⟩ :=
    (SortedTable.last_of_mem_putAll h).resolve_left fun hempty => absurd hempty.1 List.not_mem_nil
  rw [entries, List.filterMap_map] at hentries
  obtain ⟨first, second, hsplit, -, hsecond⟩ := List.filterMap_eq_append_iff.mp hentries
  obtain ⟨skipped, ⟨post, time⟩, later, rfl, -, hentry, hlater⟩ :=
    List.filterMap_eq_cons_iff.mp hsecond
  simp only [Function.comp_apply, Post.row, Option.ite_none_right_eq_some, Option.some.injEq,
    Prod.mk.injEq] at hentry
  obtain ⟨⟨htable, huin⟩, rfl, rfl⟩ := hentry
  refine ⟨post, time, ⟨htable, huin, first ++ skipped, time, later, by simp [hsplit], ?_⟩, rfl, rfl⟩
  intro delivery hdelivery htable' huin' heq
  have hmem : (delivery.1.timestamp, delivery.1.item delivery.2) ∈ after := by
    rw [← hlater]
    exact List.mem_filterMap.mpr ⟨delivery, hdelivery, by simp [Post.row, htable', huin']⟩
  rw [heq] at hmem
  exact hlast (List.mem_map.mpr ⟨_, hmem, rfl⟩)

/-- However often and in which order the posts of a fleet arrive, a query finds the newest
that were kept of one vehicle, the newest first. -/
theorem latest_posts {parse : Str → Option Json} {json : JsonText} {deliveries : List Delivery}
    (hread : ∀ delivery ∈ deliveries, Understood parse json delivery.1) {table uin : Str}
    {posts : List Post} (hposts : ∀ post, post ∈ posts ↔ Kept deliveries table uin post)
    (hordered : Ordered posts) (lambdaArn : Option Str) (limit : Nat) :
    List.Forall₂ (fun post item => ∃ time, item = post.item time)
      (posts.reverse.take limit)
      ((recorded parse lambdaArn (arrivals json deliveries) table uin).latest limit) := by
  have hsorted := hordered.timestamps
  have hne : ∀ a b : Str, a < b → a ≠ b := by
    rintro a _ hless rfl
    exact List.lt_irrefl a hless
  have hnodup : (posts.map Post.timestamp).Nodup := hsorted.imp (hne _ _)
  have hdescending : (posts.reverse.map Post.timestamp).Pairwise fun key later => later < key := by
    rw [List.map_reverse]
    exact List.pairwise_reverse.mpr hsorted
  rw [recorded_apply, rows_arrivals hread]
  refine SortedTable.forall₂_latest hdescending ?_ ?_ limit
  · intro timestamp
    rw [List.map_reverse, List.mem_reverse]
    refine ⟨fun htimestamp => ?_, fun htimestamp => ?_⟩
    · obtain ⟨post, hpost, rfl⟩ := List.mem_map.mp htimestamp
      obtain ⟨rfl, rfl, earlier, time, later, rfl, -⟩ := (hposts post).mp hpost
      have hrow : post.row time ∈ (earlier ++ (post, time) :: later).map
          fun delivery => delivery.1.row delivery.2 :=
        List.mem_map.mpr ⟨(post, time), by simp, rfl⟩
      have hentry := mem_entries.mpr hrow
      exact List.mem_map.mpr ⟨_, hentry, by dsimp only⟩
    · obtain ⟨⟨_, item⟩, hrow, hkey⟩ :=
        List.mem_map.mp (SortedTable.key_mem_putAll.mpr (Or.inr htimestamp))
      obtain ⟨post, _, hkept, hpost, -⟩ := kept_of_mem_rows hrow
      exact List.mem_map.mpr ⟨post, (hposts post).mpr hkept, hpost.trans hkey⟩
  · intro post hpost item hrow
    obtain ⟨other, time, hkept, htimestamp, hitem⟩ := kept_of_mem_rows hrow
    have hother := (hposts other).mpr hkept
    obtain rfl : other = post :=
      List.inj_on_of_nodup_map hnodup hother (List.mem_reverse.mp hpost) htimestamp
    exact ⟨time, hitem.symm⟩

end SdvGateway.Cloud.Records
